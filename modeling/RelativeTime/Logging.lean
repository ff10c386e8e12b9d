import RelativeTime.Settings.Store

/-!
Logging: which level a name stands for, how the loggers are set up, and what reading an
expression leaves in the log.
-/
namespace RelativeTime.Logging

/-- The ranks of all names of levels. -/
def ranks : List (String × Int) :=
  [("CRITICAL", 50), ("FATAL", 50), ("ERROR", 40), ("WARNING", 30), ("WARN", 30), ("INFO", 20),
    ("DEBUG", 10), ("NOTSET", 0)]

/-- The capital of a letter; two letters outside ASCII have one that is inside. -/
def capital (c : Char) : Char :=
  if c = 'ı' then 'I' else if c = 'ſ' then 'S' else c.toUpper

def rank? (name : String) : Option Int :=
  let capitals := String.ofList (name.toList.map capital)
  (ranks.find? fun r => r.1 == capitals).map (·.2)

/-- A level asked for by its rank or by a name in any case, or expressly left open. -/
inductive Level
  | rank (n : Int)
  | name (s : String)
  | absent
  deriving DecidableEq

/-- Why the loggers cannot be set up. -/
inductive SetupError
  | unknownLevel (name : String)
  | badFormat (format : String)
  | noLevel
  deriving DecidableEq

def SetupError.message : SetupError → String
  | unknownLevel name => "Unknown log level: " ++ name
  | badFormat format => "Invalid format '" ++ format ++ "' for '%' style"
  | noLevel => "Level not an integer or a valid string: None"

/-- The rank of a level, if it has one. -/
def Level.resolve : Level → Except SetupError (Option Int)
  | rank n => .ok (some n)
  | name s =>
    match rank? s with
    | some n => .ok (some n)
    | none => .error (.unknownLevel s)
  | absent => .ok none

/-- Letters that end a placeholder in either case, with their forms outside ASCII, and the percent
sign. -/
def endsPlaceholder (c : Char) : Bool :=
  "diouxefgcrsa%İıſ".toList.contains c.toLower

/-- A width or a precision: a star, digits, or nothing. -/
def skipNumber (cs : List Char) : List Char :=
  match cs with
  | '*' :: rest => rest
  | _ => cs.dropWhile Char.isDigit

/-- A precision behind its point, if there is one. -/
def skipPrecision : List Char → List Char
  | '.' :: cs => if (skipNumber cs).length < cs.length then skipNumber cs else '.' :: cs
  | cs => cs

/-- A placeholder opens a text: a name of ASCII in parentheses behind a percent sign, flags, a
width, a precision and a letter. -/
def opensPlaceholder : List Char → Bool
  | '%' :: '(' :: cs =>
    let name := cs.takeWhile fun c => c.isAlphanum || c = '_'
    match cs.drop name.length with
    | ')' :: rest =>
      let behind := skipPrecision (skipNumber (rest.dropWhile ("#0+ -".toList.contains ·)))
      !name.isEmpty && behind.head?.any endsPlaceholder
    | _ => false
  | _ => false

/-- Whether a format has a placeholder anywhere. -/
def hasPlaceholder : List Char → Bool
  | [] => false
  | c :: cs => opensPlaceholder (c :: cs) || hasPlaceholder cs

/-- The levels of the root logger and of the library's own, and the format of the one handler. -/
structure Setup where
  root : Int
  own : Int
  format : String
  deriving DecidableEq

/-- The level when nothing has been set up. -/
def rootDefault : Int := 30

def defaultFormat : String :=
  "%(asctime)s - %(name)s - %(levelname)s - %(message)s"

/-- Both loggers at one level, a warning unless told otherwise. An empty format counts as none. The
format is looked at before the level is found missing. -/
def configure (level : Option Level) (format : Option String) : Except SetupError Setup := do
  let rank? ← (level.getD (.rank rootDefault)).resolve
  let format := match format with
    | none | some "" => defaultFormat
    | some f => f
  if !hasPlaceholder format.toList then throw (.badFormat format)
  match rank? with
  | some n => return ⟨n, n, format⟩
  | none => throw .noLevel

/-- The level that a logger without one of its own goes by: the first that is set above it. -/
def Setup.effective (s : Setup) : Int :=
  if s.own = 0 then s.root else s.own

/-- The parts of the library that log. -/
inductive Source
  | reader | expression
  deriving DecidableEq

structure Entry where
  source : Source
  level : LogLevel
  text : String
  deriving DecidableEq

/-- What reading a text logs: each error, and then the refusal of the whole. -/
def entries (text : Option String) : List Entry :=
  let r := Reading.ofText text
  match r.errors with
  | [] => []
  | first :: _ =>
    match text with
    | none | some "" => [⟨.expression, .info, "Rejected empty date-math expression"⟩]
    | some s =>
      r.errors.map (fun e => ⟨.reader, .debug, "Parse error: " ++ e.message⟩) ++
        [⟨.expression, .info,
          "Rejected date-math expression " ++ Text.quoted s ++ ": " ++ first.message⟩]

/-- What reading a text through a store logs: nothing if the settings are bad, since they are
asked for first. -/
def entriesFrom (store : SettingsStore) (text : Option String) : List Entry :=
  match store.settings.1 with
  | .ok _ => entries text
  | .error _ => []

/-- The entries that come through when the library's own logger is at a level. -/
def visible (level : Int) (es : List Entry) : List Entry :=
  es.filter fun e => Setup.effective ⟨rootDefault, level, defaultFormat⟩ ≤ e.level.rank

end RelativeTime.Logging

import RelativeTime.Proofs.Records
import RelativeTime.Proofs.Requests

/-!
The places that read an expression agree on it. Under good settings a text is an expression exactly
when its reading has no errors: the expression is refused with all of them, a parse command tells
all of them beside the nodes, and a resolve command tells the first.
-/
namespace RelativeTime

namespace CommandLine

section Runs

variable {console : Console} {clock : Zone → Stamp} {store : SettingsStore} {c : Settings}
  {args : List String}

/-- Arguments that ask to resolve a text at a reference that can be read. -/
structure ResolvesAt (c : Settings) (args : List String) (text : String) (q : ResolveRequest)
    (r : Stamp) : Prop where
  asked : ∃ level, Request.ofArguments? args = some ⟨level, .resolve q⟩
  expression : q.expression = text
  reference : ∃ value, q.reference = some value ∧ c.reference? value = some r

theorem run_of_resolvesAt (hs : store.Offers c) {text : String} {q : ResolveRequest} {r : Stamp}
    (h : ResolvesAt c args text q r) :
    run console args clock store =
      match Expression.ofText (some text) (some r) with
      | .error f => reject console f.text
      | .ok x =>
        match x.evaluate c.calendar r with
        | .error f => reject console f.text
        | .ok s => showResolved q x s := by
  obtain ⟨level, hargs⟩ := h.asked
  obtain ⟨value, hvalue, hr⟩ := h.reference
  obtain ⟨t, ht, hrun⟩ := run_of_offers console clock hs hargs
  obtain ⟨u, hu, hread⟩ := SettingsStore.readReference_of_offers ht hr
  rw [hrun, Task.perform, runResolve_of_some hvalue, hread, ← h.expression]
  exact resolveFrom_of_offers hu q (some r)

end Runs

section Tables

open Terminal

/-- The header above the nodes. -/
def nodeHeader : List String :=
  ["#", "Type", "Canonical"]

/-- A row for each node, with its place in front. -/
def nodeRows (ns : List Node) : List (List String) :=
  ns.zipIdx.map fun (n, i) => [toString i, n.kindName, n.text]

/-- A character that is shown as it is wherever it stands, in one column. -/
def isSolid (c : Char) : Bool :=
  isPlain c && !Text.isSpace c && Text.width c = 1

theorem isSolid_iff {c : Char} : isSolid c = true ↔
    isPlain c = true ∧ Text.isSpace c = false ∧ Text.width c = 1 := by
  simp [isSolid, and_assoc]

theorem isWordCell_of_isSolid {s : String} (hne : s.toList ≠ [])
    (h : ∀ c ∈ s.toList, isSolid c = true) : IsWordCell s := by
  have hs : ∀ c ∈ s.toList, isPlain c = true ∧ Text.isSpace c = false ∧ Text.width c = 1 :=
    fun c hc => isSolid_iff.mp (h c hc)
  constructor
  case isWord => exact ⟨hne, fun c hc => (hs c hc).2.1⟩
  case content_eq =>
    exact content_of_keeps (keeps_of_isPlain (List.all_eq_true.mpr fun c hc => (hs c hc).1))
  case width_pos =>
    rw [width_eq_length fun c hc => (hs c hc).2.2]
    exact List.length_pos_iff.mpr hne

theorem isSolid_of_isDigit {c : Char} (h : c.isDigit = true) : isSolid c = true := by
  have hdigits : ∀ n < 58, 48 ≤ n → isSolid (Char.ofNat n) = true := by decide +kernel
  have hc : 48 ≤ c.toNat ∧ c.toNat ≤ 57 := Char.isDigit_iff_toNat.mp h
  have hsolid := hdigits c.toNat (by omega) hc.1
  rwa [Char.ofNat_toNat] at hsolid

theorem isSolid_digits (n : Nat) : ∀ c ∈ (toString n).toList, isSolid c = true := by
  intro c hc
  rw [Nat.toString_eq_ofList_toDigits, String.toList_ofList] at hc
  exact isSolid_of_isDigit (Nat.isDigit_of_mem_toDigits (by decide) (by decide) hc)

theorem isSolid_code (b : Boundary) : ∀ c ∈ b.code.toList, isSolid c = true := by
  apply List.all_eq_true.mp
  rcases b with u | _ | w
  · cases u <;> decide +kernel
  · decide +kernel
  · cases w <;> decide +kernel

theorem isSolid_text (k : Clause) : ∀ c ∈ k.text.toList, isSolid c = true := by
  cases k with
  | now => exact List.all_eq_true.mp (by decide +kernel)
  | shift s =>
    have hsign : ∀ c ∈ s.sign.symbol.toList, isSolid c = true :=
      List.all_eq_true.mp (by cases s.sign <;> decide +kernel)
    intro c hc
    rw [Clause.text, String.toList_append, String.toList_append] at hc
    rcases List.mem_append.mp hc with hc | hc
    · exact (List.mem_append.mp hc).elim (hsign c) (isSolid_digits _ c)
    · exact isSolid_code (.unit s.unit) c hc
  | snap s =>
    have hedge : ∀ c ∈ s.edge.symbol.toList, isSolid c = true :=
      List.all_eq_true.mp (by cases s.edge <;> decide +kernel)
    intro c hc
    rw [Clause.text, String.toList_append] at hc
    exact (List.mem_append.mp hc).elim (hedge c) (isSolid_code s.boundary c)

theorem isWordCell_kindName (n : Node) : IsWordCell n.kindName := by
  have hname : n.kindName ∈ ["now", "amount", "snap"] := by
    unfold Node.kindName
    cases n.clause <;> simp
  have hnames : ∀ name ∈ ["now", "amount", "snap"],
      name.toList ≠ [] ∧ name.toList.all isSolid = true := by decide +kernel
  obtain ⟨hne, hsolid⟩ := hnames _ hname
  exact isWordCell_of_isSolid hne (List.all_eq_true.mp hsolid)

/-- The nodes of a reading are told by words, each shown as it is. -/
theorem areWords_nodeRows (text : Option String) :
    AreWords nodeHeader (nodeRows (Reading.ofText text).nodes) := by
  constructor
  case ne_nil => exact List.cons_ne_nil _ _
  case length_eq =>
    intro row hrow
    obtain ⟨⟨n, i⟩, _, rfl⟩ := List.mem_map.mp hrow
    rfl
  case isWordCell =>
    intro row hrow cell hcell
    rcases List.mem_cons.mp hrow with rfl | hrow
    · have hheader : ∀ cell ∈ nodeHeader, cell.toList ≠ [] ∧ cell.toList.all isSolid = true := by
        decide +kernel
      obtain ⟨hne, hsolid⟩ := hheader cell hcell
      exact isWordCell_of_isSolid hne (List.all_eq_true.mp hsolid)
    · obtain ⟨⟨n, i⟩, hn, rfl⟩ := List.mem_map.mp hrow
      obtain ⟨hi, hni⟩ := List.mem_zipIdx' hn
      have hnode : n ∈ (Reading.ofText text).nodes := hni ▸ List.getElem_mem hi
      have htext : n.clause.text = n.text := by
        simpa using congrArg Node.text (Window.node_of_mem hnode)
      simp only [List.mem_cons, List.not_mem_nil, or_false] at hcell
      -- a row is the place, the kind and the text of a node
      rcases hcell with rfl | rfl | rfl
      · refine isWordCell_of_isSolid ?_ (isSolid_digits i)
        rw [Nat.toString_eq_ofList_toDigits, String.toList_ofList]
        exact Nat.toDigits_ne_nil
      · exact isWordCell_kindName n
      · refine isWordCell_of_isSolid ?_ (htext ▸ isSolid_text n.clause)
        rw [← htext]
        exact fun h => Clause.text_ne_empty n.clause (String.toList_eq_nil_iff.mp h)

end Tables

/-- What a parse command tells of a reading: a table with a row for each node, each cell of it cut
to the width that its column has on the console, and the lines of each error. -/
def parseReport (console : Console) (r : Reading) : Report where
  status := if r.errors = [] then 0 else 1
  tables :=
    if r.nodes = [] then []
    else
      let limits := console.share (Terminal.columnWidths nodeHeader (nodeRows r.nodes))
      [⟨"Nodes", (nodeHeader :: nodeRows r.nodes).map (Terminal.shownRow limits)⟩]
  lines := r.errors.flatMap fun e => errorLines console.columns e.message

theorem runParse_eq (console : Console) (text : String) :
    runParse console text = .report (parseReport console (Reading.ofText (some text))) := by
  unfold runParse parseReport
  simp only [List.isEmpty_iff]
  rw [← Terminal.table_of_words console "Nodes" (areWords_nodeRows (some text))]
  rfl

theorem runTokens_status (console : Console) (text : String) :
    (runTokens console text).status = 1 ↔ text = "" := by
  unfold runTokens
  by_cases h : text = ""
  · simp [h, Scanner.ofText, Scanner.isInvalid, reject, Outcome.status]
  · simp [h, Scanner.ofText, Scanner.isInvalid, Outcome.status]

/-- What is done with a text wherever one is read, told by its reading. -/
structure FrontEnds (console : Console) (clock : Zone → Stamp) (store : SettingsStore)
    (c : Settings) (text : String) (r : Reading) : Prop where
  /-- Any text can be asked about, whatever it begins with. -/
  asked : Request.ofArguments? ["parse", "--", text] = some ⟨true, .parse text⟩ ∧
    Request.ofArguments? ["tokens", "--", text] = some ⟨true, .tokens text⟩ ∧
      ∀ value, Request.ofArguments? ["resolve", "--at", value, "--", text] =
        some ⟨true, .resolve ⟨text, some value, false, false⟩⟩
  expression : ∀ ref x, (store.readExpression (some text) ref).1 = .ok x ↔
    r.errors = [] ∧ x = ⟨r.nodes, ref⟩
  /-- An expression is refused for all errors, in the words of the first. -/
  refusal : ∀ ref f, (store.readExpression (some text) ref).1 = .error f ↔
    ∃ e es, r.errors = e :: es ∧ f = .expression e.message (r.errors.map ReadError.message)
  /-- A parse command tells every error and every node, also where there are both or neither. -/
  parse : ∀ args level, Request.ofArguments? args = some ⟨level, .parse text⟩ →
    run console args clock store = .report (parseReport console r)
  /-- Where there is room the table shows the nodes as they are. -/
  table : totalWidth (Terminal.columnWidths nodeHeader (nodeRows r.nodes)) + 10 ≤ console.columns →
    r.nodes ≠ [] → (parseReport console r).tables = [⟨"Nodes", nodeHeader :: nodeRows r.nodes⟩]
  /-- An error begins a line. Its lines keep to the columns, and hold all of it but white space if
  all else in it takes a column. Without characters of the markup it is told as it is, but that the
  terminal drops control characters, expands tabs and ends lines. -/
  told : ∀ e ∈ r.errors,
    let message := "Error: " ++ e.message
    let lines := errorLines console.columns e.message
    (7 ≤ console.columns → ∃ first more, lines = ("Error: " ++ first) :: more) ∧
      (0 < console.columns → ∀ l ∈ lines, Terminal.width l.toList ≤ console.columns) ∧
      (2 ≤ console.columns → (∀ d ∈ Terminal.content message, Terminal.HasColumn d) →
        Text.ink (lines.map String.toList).flatten = Text.ink (Terminal.content message)) ∧
      ((∀ d ∈ e.quoted, Terminal.isMarkup d = false) →
        Terminal.content message = message.toList.filter fun d => !Terminal.isControl d) ∧
      ((∀ d ∈ e.quoted, Terminal.isPlain d = true) →
        Terminal.width message.toList ≤ console.columns → lines = [message])
  /-- A resolve command with a reference tells the first error. -/
  resolve_error : ∀ args q s, ResolvesAt c args text q s → ∀ e es, r.errors = e :: es →
    run console args clock store = .report ⟨1, [], errorLines console.columns e.message⟩
  resolve : ∀ args q s, ResolvesAt c args text q s → r.errors = [] →
    let x : Expression := ⟨r.nodes, some s⟩
    (∀ v, x.evaluate c.calendar s = .ok v → run console args clock store = showResolved q x v) ∧
      ∀ f, x.evaluate c.calendar s = .error f → run console args clock store = reject console f.text
  /-- The text and the data that a result is shown with read as the same expression again, the data
  without the tokens that the clauses opened with. -/
  again : r.errors = [] → r.nodes ≠ [] → ∀ ref,
    let x : Expression := ⟨r.nodes, ref⟩
    Expression.ofText (some x.text) ref = .ok x ∧
      ∃ y, Expression.ofData x.toData ref = .ok y ∧ y.reference = ref ∧ y.clauses = x.clauses ∧
        y.text = x.text ∧ y.toData = x.toData ∧ ∀ c s, y.evaluate c s = x.evaluate c s
  tokens : ∀ args level, Request.ofArguments? args = some ⟨level, .tokens text⟩ →
    ((run console args clock store).status = 1 ↔ text = "")

/-- Under good settings all agree on which texts are expressions. -/
theorem front_ends_agree {env : Environment} {c : Settings} (h : Settings.load env = .ok c)
    (console : Console) (clock : Zone → Stamp) (text : String) :
    FrontEnds console clock (.ofEnvironment env) c text (Reading.ofText (some text)) := by
  have hs := SettingsStore.offers_ofEnvironment h
  constructor
  case asked => exact ⟨rfl, rfl, fun _ => rfl⟩
  case expression =>
    intro ref x
    rw [SettingsStore.readExpression_of_offers hs]
    exact Expression.ofText_eq_ok
  case refusal =>
    intro ref f
    rw [SettingsStore.readExpression_of_offers hs]
    exact Expression.ofText_eq_error
  case parse =>
    intro args level hargs
    obtain ⟨t, _, hrun⟩ := run_of_offers console clock hs hargs
    rw [hrun]
    exact runParse_eq console text
  case table =>
    intro hfits hne
    -- cells that fit are shown whole, so the shown table is the full one
    have hwords := areWords_nodeRows (some text)
    rw [← Terminal.table_of_fits "Nodes" hwords hfits, Terminal.table_of_words console _ hwords]
    exact if_neg hne
  case told =>
    intro e _
    exact ⟨fun h7 => errorLines_eq_cons h7 e.message,
      fun h0 => Terminal.width_of_mem_lines h0 _, fun h2 hc => Terminal.ink_lines h2 hc,
      content_message, errorLines_message⟩
  case resolve_error =>
    intro args q s hargs e es he
    have hx : Expression.ofText (some text) (some s) = .error _ :=
      Expression.ofText_eq_error.mpr ⟨e, es, he, rfl⟩
    rw [run_of_resolvesAt hs hargs, hx]
    rfl
  case resolve =>
    intro args q s hargs he x
    have hx : Expression.ofText (some text) (some s) = .ok x :=
      Expression.ofText_eq_ok.mpr ⟨he, rfl⟩
    rw [run_of_resolvesAt hs hargs, hx]
    constructor
    · intro v hv
      simp only [hv]
    · intro f hf
      simp only [hf]
  case again =>
    -- what is read from a text has its words for now spelled as they are printed
    intro he hne ref x
    have hx : Expression.ofText (some text) ref = .ok x := Expression.ofText_eq_ok.mpr ⟨he, rfl⟩
    have hclauses : Expression.clauses ⟨x.clauses.map Clause.bare, ref⟩ = x.clauses :=
      Expression.clauses_bare x.clauses ref
    have hy := Expression.rebuilt_bare x ref
    have hnow := (Expression.isPrintable_of_ofText hx).now_literal
    have htext := (hy.text hnow).1
    exact ⟨Expression.ofText_text_eq hx hne, _, Expression.ofData_toData x ref, rfl, hclauses,
      htext, hy.toData, fun c s => Expression.evaluate_congr hclauses htext⟩
  case tokens =>
    intro args level hargs
    obtain ⟨t, _, hrun⟩ := run_of_offers console clock hs hargs
    rw [hrun]
    exact runTokens_status console text

/-- One command tells both errors beside the node, the other the first error alone. -/
theorem front_ends_agree_two_errors :
    let early : Stamp := ⟨⟨0, by decide, by decide⟩, .floating, false⟩
    let console := Console.ofColumns 80
    let env := Environment.ofVars [] ClockHistory.ofName?
    Settings.load env = .ok Settings.default ∧
      run console ["parse", "now*2n"] (fun _ => early) (.ofEnvironment env) = .report
        ⟨1, [⟨"Nodes", [["#", "Type", "Canonical"], ["0", "now", "now"]]⟩],
          ["Error: Illegal operator: \"*\"", "Error: Illegal operator: \"n\""]⟩ ∧
      run console ["resolve", "now*2n", "--at", "2018-06-18T08:39:07+00:00"] (fun _ => early)
        (.ofEnvironment env) = .report ⟨1, [], ["Error: Illegal operator: \"*\""]⟩ := by
  intro early console env
  have hload : Settings.load env = .ok Settings.default := by decide +kernel
  have hr : Reading.ofText (some "now*2n") =
      ⟨[.now ⟨.now, "now"⟩], [.illegal "*", .illegal "n"]⟩ := by decide +kernel
  have hagree := front_ends_agree hload console (fun _ => early) "now*2n"
  rw [hr] at hagree
  have hstar : errorLines console.columns (ReadError.illegal "*").message =
      ["Error: Illegal operator: \"*\""] := by
    obtain ⟨_, _, _, _, hplain⟩ := hagree.told (.illegal "*") (by simp)
    exact hplain (List.all_eq_true.mp (by decide)) (by decide +kernel)
  have hn : errorLines console.columns (ReadError.illegal "n").message =
      ["Error: Illegal operator: \"n\""] := by
    obtain ⟨_, _, _, _, hplain⟩ := hagree.told (.illegal "n") (by simp)
    exact hplain (List.all_eq_true.mp (by decide)) (by decide +kernel)
  refine ⟨hload, ?_, ?_⟩
  · have htable : (parseReport console ⟨[.now ⟨.now, "now"⟩],
        [.illegal "*", .illegal "n"]⟩).tables =
          [⟨"Nodes", [["#", "Type", "Canonical"], ["0", "now", "now"]]⟩] :=
      hagree.table (by decide +kernel) (List.cons_ne_nil _ _)
    have hlines : (parseReport console ⟨[.now ⟨.now, "now"⟩], [.illegal "*", .illegal "n"]⟩).lines =
        ["Error: Illegal operator: \"*\"", "Error: Illegal operator: \"n\""] := by
      rw [parseReport, List.flatMap_cons, List.flatMap_cons, hstar, hn]
      rfl
    rw [hagree.parse _ true (by decide +kernel), ← htable, ← hlines]
    rfl
  · have hargs : ResolvesAt Settings.default
        ["resolve", "now*2n", "--at", "2018-06-18T08:39:07+00:00"] "now*2n"
        ⟨"now*2n", some "2018-06-18T08:39:07+00:00", false, false⟩ _ :=
      ⟨⟨true, by decide +kernel⟩, rfl, _, rfl, rfl⟩
    rw [hagree.resolve_error _ _ _ hargs _ _ rfl, hstar]

/-- The terminal drops a bell that the first error quotes, and the data of a shift drops the token
of its sign. -/
theorem run_resolve_bell :
    let early : Stamp := ⟨⟨0, by decide, by decide⟩, .floating, false⟩
    let store := SettingsStore.ofEnvironment (.ofVars [] ClockHistory.ofName?)
    (Reading.ofText (some "now\x07")).errors = [.illegal "\x07"] ∧
      run (.ofColumns 80) ["resolve", "now\x07", "--at", "2018-06-18T08:39:07+00:00"]
        (fun _ => early) store = .report ⟨1, [], ["Error: Illegal operator: \"\""]⟩ ∧
      "Error: Illegal operator: \"\"" ≠ "Error: " ++ (ReadError.illegal "\x07").message ∧
      ∃ x y, Expression.ofText (some "+d") none = .ok x ∧
        Expression.ofData x.toData none = .ok y ∧ y ≠ x := by
  intro early store
  refine ⟨by decide +kernel, by decide +kernel, by decide +kernel, ?_⟩
  let x : Expression := ⟨[.shift ⟨.plus, .one, .day⟩ (some ⟨.plus, "+"⟩)], none⟩
  have hx : Expression.ofText (some "+d") none = .ok x := by decide +kernel
  exact ⟨x, _, hx, Expression.ofData_toData x none, by decide +kernel⟩

end CommandLine

end RelativeTime

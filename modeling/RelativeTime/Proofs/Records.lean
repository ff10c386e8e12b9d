import Mathlib.Data.List.Forall2
import RelativeTime.Proofs.Range

/-!
Nodes as structured data. What reads as a node is told field by field, each accepted spelling by the
value it stands for. The written form of a node is one of them, and it reads as the same node but
for the token, which nothing but the text of a now node looks at.
-/
namespace RelativeTime

theorem Sign.ofSymbol?_eq_some {s : String} {x : Sign} : ofSymbol? s = some x ↔ s = x.symbol :=
  byKey?_eq_some fun x => by cases x <;> decide

theorem Edge.ofSymbol?_eq_some {s : String} {x : Edge} : ofSymbol? s = some x ↔ s = x.symbol :=
  byKey?_eq_some fun x => by cases x <;> decide

theorem Node.Form.ofName?_eq_some {s : String} {f : Form} : ofName? s = some f ↔ s = f.name :=
  byKey?_eq_some fun f => by cases f <;> decide

namespace Checked

variable {α β : Type} {p : Place} {c : Checked α} {d : Checked β} {a : α} {b : β}

theorem within_eq_ok : within p c = .ok a ↔ c = .ok a := by
  cases c <;> simp [within, Except.mapError]

theorem both_eq_ok : both c d = .ok (a, b) ↔ c = .ok a ∧ d = .ok b := by
  cases c <;> cases d <;> simp [both]

theorem map_eq_ok {f : α → β} : Except.map f c = .ok b ↔ ∃ a, c = .ok a ∧ f a = b := by
  cases c <;> simp [Except.map]

theorem all_eq_ok {cs : List (Checked α)} {as : List α} :
    all cs = .ok as ↔ List.Forall₂ (fun c a => c = .ok a) cs as := by
  induction cs generalizing as with
  | nil => simp [all, eq_comm, List.forall₂_nil_left_iff]
  | cons c cs ih =>
    rw [all, map_eq_ok]
    constructor
    · rintro ⟨⟨a, as⟩, h, rfl⟩
      obtain ⟨hc, hcs⟩ := both_eq_ok.mp h
      exact .cons hc (ih.mp hcs)
    · rintro (_ | ⟨hc, hcs⟩)
      exact ⟨_, both_eq_ok.mpr ⟨hc, ih.mpr hcs⟩, rfl⟩

end Checked

/-- A field gives a value: it reads as that, or it is not there and that is the default. -/
def Data.Gives {α : Type} (fields : List (String × Data)) (name : String)
    (reads : Data → α → Prop) (default : Option α) (a : α) : Prop :=
  (∃ d, field? fields name = some d ∧ reads d a) ∨ field? fields name = none ∧ default = some a

namespace Node

variable {α : Type} {fields : List (String × Data)} {name : String} {a : α} {d : Data}

theorem checkField_eq_ok {check : Data → Checked α} {default : Option α} :
    checkField fields name check default = .ok a ↔
      Data.Gives fields name (fun d a => check d = .ok a) default a := by
  unfold checkField Data.Gives
  rw [Checked.within_eq_ok]
  cases hd : Data.field? fields name with
  | some d => simp
  | none => cases default <;> simp [Checked.fail]

theorem checkField_required {check : Data → Checked α} {d : Data}
    (h : ∀ e, check e = .ok a ↔ e = d) :
    checkField fields name check none = .ok a ↔ Data.field? fields name = some d := by
  rw [checkField_eq_ok, Data.Gives]
  simp [h]

theorem checkCode_eq_ok {allowed : CodeSet} {ofCode? : String → Option α} {code : String}
    (h : ∀ s, ofCode? s = some a ↔ s = code) :
    checkCode allowed ofCode? d = .ok a ↔ d = .text code := by
  unfold checkCode
  cases d with
  | text s =>
    rw [Data.text.injEq, ← h]
    cases hs : ofCode? s <;>
      simp [checkText, bind, Except.bind, hs, Checked.fail, pure, Except.pure]
  | _ => simp [checkText, Checked.fail, bind, Except.bind]

theorem checkSymbol_eq_ok {defect : Defect} {ofSymbol? : String → Option α} {symbol : String}
    (h : ∀ s, ofSymbol? s = some a ↔ s = symbol) :
    checkSymbol defect ofSymbol? d = .ok a ↔ d = .text symbol := by
  unfold checkSymbol
  cases d with
  | text s =>
    rw [Data.text.injEq, ← h]
    cases hs : ofSymbol? s <;> simp [hs, Checked.fail]
  | _ => simp [Checked.fail]

theorem checkAmount_eq_ok {n : Amount} : checkAmount d = .ok n ↔ checkInteger d = .ok n.count := by
  unfold checkAmount
  cases hd : checkInteger d with
  | error es => simp [bind, Except.bind]
  | ok k =>
    obtain ⟨count, hpos⟩ := n
    by_cases hk : 0 < k.toNat
    · simp only [bind, Except.bind, Amount.ofNat?, dif_pos hk, pure, Except.pure, Except.ok.injEq,
        Amount.mk.injEq]
      omega
    · have hne : k ≠ count := by omega
      simp [bind, Except.bind, Amount.ofNat?, hk, Checked.fail, hne]

/-- A record in which each field that counts is there in an accepted spelling, or is not there and
has a default. What else is in it means nothing. -/
inductive Reads : Data → Node → Prop
  | now {fields : List (String × Data)} {opener : Token}
      (type : Data.field? fields "type" = some (.text "now"))
      (token : Data.Gives fields "token" (fun d t => checkToken d = .ok t) (some Token.now)
        opener) :
      Reads (.record fields) (.now opener)
  | shift {fields : List (String × Data)} {s : Shift} {opener : Option Token}
      (type : Data.field? fields "type" = some (.text "amount"))
      (amount : Data.Gives fields "amount" (fun d n => checkInteger d = .ok (Amount.count n : Int))
        (some Amount.one) s.amount)
      (modifier : Data.field? fields "modifier" = some (.text s.unit.code))
      (operator : Data.field? fields "operator" = some (.text s.sign.symbol))
      (token : Data.Gives fields "token" (fun d t => checkOptionalToken d = .ok t) (some none)
        opener) :
      Reads (.record fields) (.shift s opener)
  | snap {fields : List (String × Data)} {s : Snap} {opener : Option Token}
      (type : Data.field? fields "type" = some (.text "snap"))
      (modifier : Data.field? fields "modifier" = some (.text s.boundary.code))
      (operator : Data.field? fields "operator" = some (.text s.edge.symbol))
      (token : Data.Gives fields "token" (fun d t => checkOptionalToken d = .ok t) (some none)
        opener) :
      Reads (.record fields) (.snap s opener)

theorem ofData_record {n : Node} :
    ofData (.record fields) = .ok n ↔
      ∃ form : Form, Data.field? fields "type" = some (.text form.name) ∧
        ofFields form fields = .ok n := by
  unfold ofData
  cases htag : Data.field? fields "type" with
  | none => simp [htag, Checked.fail]
  | some tag =>
    cases tag with
    | text s =>
      cases hform : Form.ofName? s with
      | none =>
        have hs : ∀ form : Form, s ≠ form.name := by
          intro form hs
          rw [Form.ofName?_eq_some.mpr hs] at hform
          simp at hform
        simp [htag, hform, hs, Checked.fail]
      | some form =>
        obtain rfl := Form.ofName?_eq_some.mp hform
        have hname : ∀ g : Form, form.name = g.name ↔ g = form := by
          intro g
          rw [← Form.ofName?_eq_some, hform, Option.some.injEq, eq_comm]
        simp [htag, hform, hname, Checked.within_eq_ok]
    | _ => simp [htag, Checked.fail]

theorem checkField_code {allowed : CodeSet} {ofCode? : String → Option α} {code : String}
    (h : ∀ s, ofCode? s = some a ↔ s = code) :
    checkField fields name (checkCode allowed ofCode?) none = .ok a ↔
      Data.field? fields name = some (.text code) :=
  checkField_required fun _ => checkCode_eq_ok h

theorem checkField_symbol {defect : Defect} {ofSymbol? : String → Option α} {symbol : String}
    (h : ∀ s, ofSymbol? s = some a ↔ s = symbol) :
    checkField fields name (checkSymbol defect ofSymbol?) none = .ok a ↔
      Data.field? fields name = some (.text symbol) :=
  checkField_required fun _ => checkSymbol_eq_ok h

theorem checkField_amount {n : Amount} :
    checkField fields name checkAmount (some Amount.one) = .ok n ↔
      Data.Gives fields name (fun d n => checkInteger d = .ok (Amount.count n : Int))
        (some Amount.one) n := by
  simp only [checkField_eq_ok, checkAmount_eq_ok]

/-- Data reads as the node that its fields give. -/
theorem ofData_eq_ok {n : Node} : ofData d = .ok n ↔ Reads d n := by
  -- field by field, in the order in which they are checked
  constructor
  · intro h
    cases d with
    | record fields =>
      obtain ⟨form, type, hform⟩ := ofData_record.mp h
      cases form with
      | now =>
        obtain ⟨opener, ht, rfl⟩ := Checked.map_eq_ok.mp hform
        exact .now type (checkField_eq_ok.mp ht)
      | shift =>
        obtain ⟨⟨amount, unit, sign, opener⟩, hparts, rfl⟩ := Checked.map_eq_ok.mp hform
        obtain ⟨ha, hparts⟩ := Checked.both_eq_ok.mp hparts
        obtain ⟨hu, hparts⟩ := Checked.both_eq_ok.mp hparts
        obtain ⟨hs, ht⟩ := Checked.both_eq_ok.mp hparts
        exact .shift type (checkField_amount.mp ha)
          ((checkField_code fun _ => TimeUnit.ofCode?_eq_some).mp hu)
          ((checkField_symbol fun _ => Sign.ofSymbol?_eq_some).mp hs) (checkField_eq_ok.mp ht)
      | snap =>
        obtain ⟨⟨boundary, edge, opener⟩, hparts, rfl⟩ := Checked.map_eq_ok.mp hform
        obtain ⟨hb, hparts⟩ := Checked.both_eq_ok.mp hparts
        obtain ⟨he, ht⟩ := Checked.both_eq_ok.mp hparts
        exact .snap type ((checkField_code fun _ => Boundary.ofCode?_eq_some).mp hb)
          ((checkField_symbol fun _ => Edge.ofSymbol?_eq_some).mp he) (checkField_eq_ok.mp ht)
    | _ => simp [ofData, Checked.fail] at h
  · intro h
    cases h with
    | now type token =>
      refine ofData_record.mpr ⟨.now, type, Checked.map_eq_ok.mpr ⟨_, ?_, rfl⟩⟩
      exact checkField_eq_ok.mpr token
    | @shift fields s opener type amount modifier operator token =>
      refine ofData_record.mpr ⟨.shift, type, Checked.map_eq_ok.mpr
        ⟨(s.amount, s.unit, s.sign, opener), ?_, rfl⟩⟩
      refine Checked.both_eq_ok.mpr ⟨checkField_amount.mpr amount, ?_⟩
      refine Checked.both_eq_ok.mpr
        ⟨(checkField_code fun _ => TimeUnit.ofCode?_eq_some).mpr modifier, ?_⟩
      exact Checked.both_eq_ok.mpr
        ⟨(checkField_symbol fun _ => Sign.ofSymbol?_eq_some).mpr operator,
          checkField_eq_ok.mpr token⟩
    | @snap fields s opener type modifier operator token =>
      refine ofData_record.mpr ⟨.snap, type, Checked.map_eq_ok.mpr
        ⟨(s.boundary, s.edge, opener), ?_, rfl⟩⟩
      refine Checked.both_eq_ok.mpr
        ⟨(checkField_code fun _ => Boundary.ofCode?_eq_some).mpr modifier, ?_⟩
      exact Checked.both_eq_ok.mpr
        ⟨(checkField_symbol fun _ => Edge.ofSymbol?_eq_some).mpr operator,
          checkField_eq_ok.mpr token⟩

theorem ofItems_eq_ok {ds : List Data} {ns : List Node} :
    ofItems ds = .ok ns ↔ List.Forall₂ Reads ds ns := by
  -- the index of an item only tells where its issues are
  have hitem : (fun (p : Data × Nat) n =>
      Checked.within (.index p.2) (ofData p.1) = .ok n) = fun p n => Reads p.1 n := by
    funext p n
    rw [Checked.within_eq_ok, ofData_eq_ok]
  have hitems : ds = ds.zipIdx.map Prod.fst := (List.zipIdx_map_fst 0 ds).symm
  rw [ofItems, Checked.all_eq_ok, List.forall₂_map_left_iff, hitem]
  nth_rewrite 2 [hitems]
  rw [List.forall₂_map_left_iff]

/-- The forms that nodes are written in. -/
inductive Written : Data → Prop
  | now : Written (.record [("type", .text "now")])
  | shift {amount : Int} {modifier operator : String} (amount_pos : 1 ≤ amount)
      (modifier_mem : CodeSet.units.accepts modifier = true)
      (operator_mem : operator ∈ ["+", "-"]) :
      Written (.record [("type", .text "amount"), ("amount", .integer amount),
        ("modifier", .text modifier), ("operator", .text operator)])
  | snap {modifier operator : String}
      (modifier_mem : CodeSet.boundaries.accepts modifier = true)
      (operator_mem : operator ∈ ["/", "@"]) :
      Written (.record [("type", .text "snap"), ("modifier", .text modifier),
        ("operator", .text operator)])

theorem written_toData (n : Node) : Written n.toData := by
  unfold toData
  cases n.clause with
  | now => exact .now
  | shift s =>
    have hpos : (1 : Int) ≤ s.amount.count := by
      have h := s.amount.count_pos
      omega
    have hunit : CodeSet.units.accepts s.unit.code = true := by
      cases s.unit <;> decide
    have hsign : s.sign.symbol ∈ ["+", "-"] := by
      cases s.sign <;> decide
    exact .shift hpos hunit hsign
  | snap s =>
    have hboundary : CodeSet.boundaries.accepts s.boundary.code = true := by
      rw [CodeSet.accepts, List.contains_iff_mem]
      exact List.mem_map_of_mem (Boundary.mem_all s.boundary)
    have hedge : s.edge.symbol ∈ ["/", "@"] := by
      cases s.edge <;> decide
    exact .snap hboundary hedge

end Node

/-- The node that a written clause reads as: without a token, but for the one every now node has. -/
def Clause.bare : Clause → Node
  | now => .now Token.now
  | shift s => .shift s none
  | snap s => .snap s none

theorem Clause.clause_bare (k : Clause) : k.bare.clause = k := by
  cases k <;> rfl

theorem Node.reads_toData (n : Node) : Reads n.toData n.clause.bare := by
  unfold toData
  cases n.clause with
  | now => exact .now rfl (Or.inr ⟨rfl, rfl⟩)
  | shift s =>
    refine .shift rfl (Or.inl ⟨.integer s.amount.count, rfl, rfl⟩) rfl rfl (Or.inr ⟨rfl, rfl⟩)
  | snap s => exact .snap rfl rfl rfl (Or.inr ⟨rfl, rfl⟩)

namespace Expression

theorem ofData_eq_ok {items : Data} {ref : Option Stamp} {x : Expression} :
    ofData items ref = .ok x ↔
      x.reference = ref ∧ ∃ ds, items.items = .ok ds ∧ List.Forall₂ Node.Reads ds x.nodes := by
  unfold ofData Node.listOfData
  simp only [← Node.ofItems_eq_ok]
  obtain ⟨nodes, reference⟩ := x
  cases hi : items.items with
  | error e => simp [bind, Except.bind, Except.map]
  | ok ds =>
    cases hn : Node.ofItems ds with
    | error es => simp [bind, Except.bind, Except.map, Except.mapError, hn]
    | ok ns =>
      simp only [bind, Except.bind, Except.map, Except.mapError, hn, Except.ok.injEq, mk.injEq]
      constructor
      · rintro ⟨rfl, rfl⟩
        exact ⟨rfl, ds, rfl, hn⟩
      · rintro ⟨rfl, _, rfl, h⟩
        exact ⟨Except.ok.inj (hn.symm.trans h), rfl⟩

/-- What was written reads as its bare clauses. -/
theorem ofData_toData (x : Expression) (ref : Option Stamp) :
    ofData x.toData ref = .ok ⟨x.clauses.map Clause.bare, ref⟩ := by
  refine ofData_eq_ok.mpr ⟨rfl, x.nodes.map Node.toData, rfl, ?_⟩
  rw [clauses, List.map_map, List.forall₂_map_left_iff, List.forall₂_map_right_iff]
  exact List.forall₂_same.mpr fun n _ => Node.reads_toData n

theorem clauses_bare (ks : List Clause) (ref : Option Stamp) :
    clauses ⟨ks.map Clause.bare, ref⟩ = ks := by
  simp [clauses, Function.comp_def, Clause.clause_bare]

/-- What an expression that was written and read again shares with the one that was written. -/
structure Rebuilt (x y : Expression) : Prop where
  toData : y.toData = x.toData
  length : y.nodes.length = x.nodes.length
  isSnapped : y.isSnapped = x.isSnapped
  isModified : y.isModified = x.isModified
  /-- The first so many nodes of either have one value, or one fault. -/
  prefixes : ∀ n c r,
    Clause.evaluate c r (y.take n).clauses = Clause.evaluate c r (x.take n).clauses
  value : ∀ c r v, y.evaluate c r = .ok v ↔ x.evaluate c r = .ok v
  failure : ∀ c r reason, y.evaluate c r = .error (.range y.text reason) ↔
    x.evaluate c r = .error (.range x.text reason)
  /-- Where the one has an amount too long to be written in a failure, so has the other. -/
  unwritable : ∀ c r e, y.evaluate c r = .error (.foreign e) ↔ x.evaluate c r = .error (.foreign e)
  /-- The text may differ in the words for now alone. -/
  text : (∀ t, .now t ∈ x.nodes → t.literal = "now") → y.text = x.text ∧ y.written = x.written

theorem rebuilt_bare (x : Expression) (ref : Option Stamp) :
    Rebuilt x ⟨x.clauses.map Clause.bare, ref⟩ := by
  have hc : clauses ⟨x.clauses.map Clause.bare, ref⟩ = x.clauses := clauses_bare x.clauses ref
  have hnow : ∀ t, .now t ∈ x.clauses.map Clause.bare → t.literal = "now" := by
    intro t ht
    obtain ⟨k, _, hk⟩ := List.mem_map.mp ht
    cases k with
    | now => rw [← Node.now.inj hk]; rfl
    | shift s => simp [Clause.bare] at hk
    | snap s => simp [Clause.bare] at hk
  -- both have a text, or one amount is too long for either
  have hwritten : x.written = .ok x.text ∧
        written ⟨x.clauses.map Clause.bare, ref⟩ = .ok (text ⟨x.clauses.map Clause.bare, ref⟩) ∨
      ∃ e, x.written = .error e ∧ written ⟨x.clauses.map Clause.bare, ref⟩ = .error e := by
    rcases written_cases x with ⟨h, hx⟩ | ⟨h, hx⟩
    · exact Or.inl ⟨hx, written_eq_ok (by rwa [hc])⟩
    · exact Or.inr ⟨_, hx, written_eq_error (by rwa [hc])⟩
  constructor
  case toData => exact toData_eq hc
  case length => simp [clauses]
  case isSnapped => rw [isSnapped, isSnapped, hc]
  case isModified => rw [isModified, isModified, hc]
  case prefixes =>
    intro n c r
    rw [clauses_take, clauses_take, hc]
  case value =>
    intro c r v
    rw [evaluate_eq_ok, evaluate_eq_ok, hc]
  case failure =>
    intro c r reason
    rw [evaluate_eq_error, evaluate_eq_error, hc]
    rcases hwritten with ⟨hx, hy⟩ | ⟨e, hx, hy⟩
    · simp [failureOf_of_written hx, failureOf_of_written hy]
    · simp [failureOf_of_unwritable hx, failureOf_of_unwritable hy]
  case unwritable =>
    intro c r e
    rw [evaluate_eq_error, evaluate_eq_error, hc]
    rcases hwritten with ⟨hx, hy⟩ | ⟨e, hx, hy⟩
    · simp [failureOf_of_written hx, failureOf_of_written hy]
    · simp [failureOf_of_unwritable hx, failureOf_of_unwritable hy]
  case text =>
    intro h
    have ht : text ⟨x.clauses.map Clause.bare, ref⟩ = x.text := by
      rw [text_eq_join hnow, text_eq_join h, hc]
    refine ⟨ht, ?_⟩
    rw [written, written, hc, ht]

/-- Whatever data an expression was read from, item by item, its written form is one of three, and
reads as the same expression again but for tokens. One that was read from a text prints the same
then. -/
theorem ofData_toData_ofData :
    (∀ items ref x, ofData items ref = .ok x →
      (∃ ds, items.items = .ok ds ∧ List.Forall₂ Node.Reads ds x.nodes) ∧
        (∀ n ∈ x.nodes, Node.Written n.toData) ∧
        ∀ ref', ∃ y, ofData x.toData ref' = .ok y ∧ y.reference = ref' ∧ Rebuilt x y) ∧
      ∀ text ref x, ofText text ref = .ok x →
        (∀ t, .now t ∈ x.nodes → t.literal = "now") ∧
          ∀ ref', ∃ y, ofData x.toData ref' = .ok y ∧ y.text = x.text ∧ Rebuilt x y := by
  constructor
  · intro items ref x h
    obtain ⟨_, hreads⟩ := ofData_eq_ok.mp h
    refine ⟨hreads, fun n _ => Node.written_toData n, fun ref' => ?_⟩
    exact ⟨_, ofData_toData x ref', rfl, rebuilt_bare x ref'⟩
  · intro text ref x h
    have hnow := (isPrintable_of_ofText h).now_literal
    refine ⟨hnow, fun ref' => ?_⟩
    have hy := rebuilt_bare x ref'
    exact ⟨_, ofData_toData x ref', (hy.text hnow).1, hy⟩

/-- A word for now of its own and an amount in digits behind a zero: the one prints as it is and is
lost, the other is written as a number. -/
theorem ofData_toData_ofData_today :
    let items : Data := .list [
      .record [("type", .text "now"), ("token", .record [("type", .text "NOW"),
        ("literal", .text "today")])],
      .record [("operator", .text "-"), ("modifier", .text "d"), ("amount", .text " 02 "),
        ("note", .null), ("type", .text "amount")]]
    let x : Expression := ⟨[.now ⟨.now, "today"⟩, .shift ⟨.minus, ⟨2, by decide⟩, .day⟩ none], none⟩
    ofData items none = .ok x ∧ x.text = "today-2d" ∧
      (∃ y, ofData x.toData none = .ok y ∧ y.toData = x.toData) ∧
      ∃ z, ofText (some "now-2d") none = .ok z ∧
        ∃ y, ofData z.toData none = .ok y ∧ y.text = z.text := by
  intro items x
  have hx : ofData items none = .ok x := rfl
  obtain ⟨_, _, hagain⟩ := ofData_toData_ofData.1 items none x hx
  obtain ⟨y, hy, _, hrebuilt⟩ := hagain none
  have hz : ofText (some "now-2d") none = .ok ⟨[.now ⟨.now, "now"⟩,
      .shift ⟨.minus, ⟨2, by decide⟩, .day⟩ (some ⟨.minus, "-"⟩)], none⟩ := by decide +kernel
  obtain ⟨_, hprints⟩ := ofData_toData_ofData.2 _ _ _ hz
  obtain ⟨w, hw, htext, _⟩ := hprints none
  exact ⟨hx, by decide +kernel, ⟨y, hy, hrebuilt.toData⟩, _, hz, w, hw, htext⟩

end Expression

end RelativeTime

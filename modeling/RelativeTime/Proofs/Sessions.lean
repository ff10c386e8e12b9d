import RelativeTime.Clause.Reading
import RelativeTime.Proofs.Scanning

/-!
Sessions. A reader shares its scanner with whoever else takes tokens from it, and it reads once:
when it is first asked for nodes it reads all that is left, as a fresh reader does on that rest of
the text, and from then on it answers out of what it has read. Whether there was anything to read at
all is decided by the whole text and not by the rest. What becomes of the lists that it has handed
out makes no difference to it.
-/
namespace RelativeTime

namespace Scanner

theorem skip_add (m n : Nat) (s : Scanner) : skip (m + n) s = skip n (skip m s) := by
  induction m generalizing s with
  | zero => rw [Nat.zero_add, skip]
  | succ m ih => rw [Nat.succ_add, skip, skip, ih]

theorem text_skip (n : Nat) (s : Scanner) : (skip n s).text = s.text := by
  induction n generalizing s with
  | zero => rfl
  | succ n ih => exact ih s.next.2

/-- A scanner that has something left was not begun on the empty text. -/
theorem text_ne_empty_of_unread {text : Option String} {n : Nat}
    (h : String.ofList (skip n (ofText text)).unread ≠ "") : text.getD "" ≠ "" := by
  intro hempty
  have hnil : (ofText text).unread = [] := String.toList_eq_nil_iff.mpr hempty
  have hskip : (skip n (ofText text)).unread = [] := by
    apply unread_skip_of_le
    rw [hnil, Token.ofChars_nil]
    exact Nat.zero_le n
  exact h (String.ofList_eq_empty_iff.mpr hskip)

end Scanner

namespace Reading

variable {s : Scanner}

theorem ofScanner_of_empty (h : s.text = "") : ofScanner s = ⟨[], [.invalid]⟩ := by
  simp [ofScanner, Scanner.isInvalid, h]

theorem ofScanner_of_ne_empty (h : s.text ≠ "") :
    ofScanner s = ofTokens (Token.ofChars s.unread) := by
  simp [ofScanner, Scanner.isInvalid, h]

@[simp] theorem ofTokens_nil : ofTokens [] = ⟨[], []⟩ := by
  rw [ofTokens, findings_of_kind (by simp), Finding.ofTokens]
  rfl

/-- A scanner with something left is read as a fresh one is on what is left. -/
theorem ofScanner_unread (ht : s.text ≠ "") (hu : String.ofList s.unread ≠ "") :
    ofScanner (Scanner.ofText (some (String.ofList s.unread))) = ofScanner s := by
  have hunread : (Scanner.ofText (some (String.ofList s.unread))).unread = s.unread :=
    String.toList_ofList
  rw [ofScanner_of_ne_empty ht, ofScanner_of_ne_empty hu, hunread]

end Reading

namespace ReadingSession

/-- What a session that has read answers, by what it has read alone. -/
def answerWith (r : Reading) : Step → ReadingAnswer
  | .nodes => .nodes r.nodes
  | .errors => .errors r.errors
  | .next => .token Token.finish
  | .clear => .cleared

/-- What a session that has not read yet answers, by its scanner alone. -/
def answerBefore (scanner : Scanner) : Step → ReadingAnswer
  | .nodes => .nodes (Reading.ofScanner scanner).nodes
  | .errors => .errors []
  | .next => .token scanner.next.1
  | .clear => .cleared

/-- The lists that answers have handed out, each of them emptied if a clearing comes behind it. -/
def handedOut : List ReadingAnswer → List ReadingAnswer
  | [] => []
  | .token _ :: answers | .cleared :: answers => handedOut answers
  | list :: answers =>
    (if .cleared ∈ answers then list.emptied else list) :: handedOut answers

/-- The session has read and left nothing to its scanner. -/
structure HasRead (s : ReadingSession) (r : Reading) : Prop where
  reading_eq : s.reading = some r
  unread_eq : s.scanner.unread = []

/-- Two sessions that differ in what they have handed out, at most. -/
structure Alike (s t : ReadingSession) : Prop where
  scanner_eq : s.scanner = t.scanner
  reading_eq : s.reading = t.reading

theorem Alike.trans {s t u : ReadingSession} (h : s.Alike t) (h' : t.Alike u) : s.Alike u :=
  ⟨h.scanner_eq.trans h'.scanner_eq, h.reading_eq.trans h'.reading_eq⟩

section Steps

variable {s t : ReadingSession} {r : Reading} {scanner : Scanner} {x : Step}

/-- No answer depends on the lists that were handed out before. -/
theorem step_of_alike (h : s.Alike t) (x : Step) :
    (s.step x).1 = (t.step x).1 ∧ (s.step x).2.Alike (t.step x).2 := by
  obtain ⟨scanner, reading, handed⟩ := s
  obtain ⟨scanner', reading', handed'⟩ := t
  obtain rfl : scanner = scanner' := h.scanner_eq
  obtain rfl : reading = reading' := h.reading_eq
  cases x with
  | nodes => cases reading <;> exact ⟨rfl, ⟨rfl, rfl⟩⟩
  | errors => exact ⟨rfl, ⟨rfl, rfl⟩⟩
  | next => exact ⟨rfl, ⟨rfl, rfl⟩⟩
  | clear => exact ⟨rfl, ⟨rfl, rfl⟩⟩

/-- A session that has read stays as it is but for its lists. -/
theorem step_of_hasRead (h : s.HasRead r) (x : Step) :
    (s.step x).1 = answerWith r x ∧ (s.step x).2.HasRead r := by
  obtain ⟨hr, hu⟩ := h
  have hnext : s.scanner.next = (Token.finish, s.scanner) := Scanner.next_of_nil hu
  cases x with
  | nodes =>
    simp only [step, handOut, nodes, hr, answerWith, true_and]
    exact ⟨rfl, hu⟩
  | errors =>
    simp only [step, handOut, errors, hr, answerWith, true_and]
    exact ⟨rfl, hu⟩
  | next =>
    simp only [step, next, hnext, answerWith, true_and]
    exact ⟨hr, hu⟩
  | clear => exact ⟨rfl, ⟨hr, hu⟩⟩

theorem step_start_answer : ((start scanner).step x).1 = answerBefore scanner x := by
  cases x <;> rfl

theorem step_start_nodes :
    ((start scanner).step .nodes).2.HasRead (Reading.ofScanner scanner) :=
  ⟨rfl, rfl⟩

theorem step_start_of_ne (h : x ≠ .nodes) :
    ((start scanner).step x).2.Alike (start (Scanner.skip ([x].count .next) scanner)) := by
  cases x with
  | nodes => exact absurd rfl h
  | _ => exact ⟨rfl, rfl⟩

end Steps

section Runs

variable {s t : ReadingSession} {r : Reading} {x : Step} {xs ys zs : List Step}

theorem run_cons :
    s.run (x :: xs) = ((s.step x).1 :: ((s.step x).2.run xs).1, ((s.step x).2.run xs).2) :=
  rfl

theorem run_append :
    s.run (xs ++ ys) = ((s.run xs).1 ++ ((s.run xs).2.run ys).1, ((s.run xs).2.run ys).2) := by
  induction xs generalizing s with
  | nil => rfl
  | cons x xs ih => simp only [List.cons_append, run_cons, ih]

theorem run_length : (s.run xs).1.length = xs.length := by
  induction xs generalizing s with
  | nil => rfl
  | cons x xs ih => simp only [run_cons, List.length_cons, ih]

theorem run_of_alike (h : s.Alike t) (xs : List Step) :
    (s.run xs).1 = (t.run xs).1 ∧ (s.run xs).2.Alike (t.run xs).2 := by
  induction xs generalizing s t with
  | nil => exact ⟨rfl, h⟩
  | cons x xs ih =>
    obtain ⟨hanswer, hstep⟩ := step_of_alike h x
    obtain ⟨hanswers, hrun⟩ := ih hstep
    exact ⟨by rw [run_cons, run_cons, hanswer, hanswers], hrun⟩

theorem run_of_hasRead (h : s.HasRead r) (xs : List Step) :
    (s.run xs).1 = xs.map (answerWith r) := by
  induction xs generalizing s with
  | nil => rfl
  | cons x xs ih =>
    obtain ⟨hanswer, hstep⟩ := step_of_hasRead h x
    rw [run_cons, hanswer, ih hstep, List.map_cons]

/-- Until it is asked for nodes a session does nothing but hand on tokens. -/
theorem run_start_of_not_mem (scanner : Scanner) (h : Step.nodes ∉ xs) :
    ((start scanner).run xs).2.Alike (start (Scanner.skip (xs.count .next) scanner)) := by
  -- on the steps, with the scanner as each step leaves it
  induction xs generalizing scanner with
  | nil => exact ⟨rfl, rfl⟩
  | cons x xs ih =>
    have hx : x ≠ .nodes := Ne.symm (List.ne_of_not_mem_cons h)
    have hxs : Step.nodes ∉ xs := List.not_mem_of_not_mem_cons h
    have hcount : (x :: xs).count .next = [x].count .next + xs.count .next := by
      rw [← List.count_append, List.singleton_append]
    rw [run_cons, hcount, Scanner.skip_add]
    exact (run_of_alike (step_start_of_ne hx) xs).2.trans (ih _ hxs)

/-- A session that is asked for nodes reads, and answers out of that for good. -/
theorem run_start_nodes (scanner : Scanner) :
    let r := Reading.ofScanner scanner
    ((start scanner).run (.nodes :: xs)).1 = .nodes r.nodes :: xs.map (answerWith r) := by
  intro r
  rw [run_cons, run_of_hasRead step_start_nodes]
  rfl

/-- Behind the steps that ask for no nodes, a session answers as a new one does on the tokens that
they have left. -/
theorem drop_run_start (scanner : Scanner) (h : Step.nodes ∉ ys) :
    ((start scanner).run (ys ++ zs)).1.drop ys.length =
      ((start (Scanner.skip (ys.count .next) scanner)).run zs).1 := by
  have hys : ((start scanner).run ys).1.length = ys.length := run_length
  rw [run_append, ← hys, List.drop_left]
  exact (run_of_alike (run_start_of_not_mem scanner h) zs).1

/-- Behind a run each list that was handed out is as it was answered, or empty. -/
theorem run_handed (s : ReadingSession) (xs : List Step) :
    (s.run xs).2.handed =
      (if .cleared ∈ (s.run xs).1 then s.handed.map ReadingAnswer.emptied else s.handed) ++
        handedOut (s.run xs).1 := by
  induction xs generalizing s with
  | nil => simp [run, handedOut]
  | cons x xs ih =>
    rw [run_cons]
    -- clearing what has been cleared changes nothing
    have htwice : ∀ list : List ReadingAnswer,
        (list.map ReadingAnswer.emptied).map ReadingAnswer.emptied =
          list.map ReadingAnswer.emptied := by
      intro list
      rw [List.map_map]
      exact List.map_congr_left fun answer _ => answer.emptied_emptied
    have hnodes : s.nodes.2.handed = s.handed := by
      unfold nodes
      split <;> rfl
    cases x with
    | nodes =>
      simp only [ih, step, handOut, hnodes, handedOut, List.mem_cons, reduceCtorEq, false_or]
      split <;> simp
    | errors =>
      simp only [ih, step, handOut, handedOut, List.mem_cons, reduceCtorEq, false_or]
      split <;> simp
    | next => simp only [ih, step, next, handedOut, List.mem_cons, reduceCtorEq, false_or]
    | clear =>
      simp only [ih, step, handedOut, List.mem_cons, true_or, if_true, htwice, ite_self]

end Runs

/-- Whatever is asked of a session on a scanner that has given some tokens, it tells no errors
before it is first asked for nodes. It then reads what a fresh session reads on the rest of the
text, or nothing if there is no rest, and that an empty text is no expression; from then on it
always answers the same, and there is no token left. The lists that it has handed out are empty once
they have been cleared, and as they were answered otherwise. -/
theorem run_reads_once (text : Option String) (taken : Nat) (xs : List Step) :
    let tokens := Token.ofChars (text.getD "").toList
    let session := start (Scanner.skip taken (Scanner.ofText text))
    let answers := (session.run xs).1
    (session.run xs).2.handed = handedOut answers ∧
    (∀ ys x zs, xs = ys ++ x :: zs → .nodes ∉ ys →
      (x = .errors → answers[ys.length]? = some (.errors [])) ∧
      (x = .clear → answers[ys.length]? = some .cleared) ∧
      (x = .next → answers[ys.length]? =
        some (.token (tokens[taken + ys.count .next]?.getD ⟨.finish, ""⟩)))) ∧
    ∀ ys zs, xs = ys ++ .nodes :: zs → .nodes ∉ ys →
      ∃ (unread : String) (r : Reading),
        String.join ((tokens.take (taken + ys.count .next)).map Token.literal) ++ unread =
          text.getD "" ∧
        (unread ≠ "" → ((start (Scanner.ofText (some unread))).run [.nodes, .errors]).1 =
          [.nodes r.nodes, .errors r.errors]) ∧
        (unread = "" → text.getD "" ≠ "" → r = ⟨[], []⟩) ∧
        (text.getD "" = "" → r = ⟨[], [.invalid]⟩) ∧
        answers.drop ys.length = .nodes r.nodes :: zs.map (answerWith r) := by
  intro tokens session answers
  -- where the scanner stands when `ys` has been asked and nothing has been read yet
  let scanner (ys : List Step) : Scanner :=
    Scanner.skip (taken + ys.count .next) (Scanner.ofText text)
  have hbehind : ∀ ys zs, .nodes ∉ ys →
      (session.run (ys ++ zs)).1.drop ys.length = ((start (scanner ys)).run zs).1 := by
    intro ys zs hys
    rw [drop_run_start _ hys, ← Scanner.skip_add]
  have hhanded : (session.run xs).2.handed = handedOut answers := by
    rw [run_handed]
    simp [session, start, answers]
  refine ⟨hhanded, ?_, ?_⟩
  · rintro ys x zs rfl hys
    have hanswer : answers[ys.length]? = some (answerBefore (scanner ys) x) := by
      rw [← List.head?_drop, hbehind ys (x :: zs) hys, run_cons, List.head?_cons, step_start_answer]
    rw [hanswer]
    refine ⟨?_, ?_, ?_⟩
    · rintro rfl
      rfl
    · rintro rfl
      rfl
    · rintro rfl
      rw [answerBefore, Scanner.next_skip]
      rfl
  · rintro ys zs rfl hys
    have htext : (scanner ys).text = text.getD "" := Scanner.text_skip _ _
    have hjoin : String.join ((tokens.take (taken + ys.count .next)).map Token.literal) ++
        String.ofList (scanner ys).unread = text.getD "" :=
      (Scanner.join_append_unread _ (Scanner.ofText text)).trans String.ofList_toList
    refine ⟨String.ofList (scanner ys).unread, Reading.ofScanner (scanner ys), hjoin, ?_, ?_, ?_,
      ?_⟩
    · intro hne
      have hwhole : (scanner ys).text ≠ "" := by
        rw [htext]
        exact Scanner.text_ne_empty_of_unread hne
      rw [run_start_nodes, Reading.ofScanner_unread hwhole hne]
      rfl
    · intro hnil hne
      have hwhole : (scanner ys).text ≠ "" := by rwa [htext]
      rw [Reading.ofScanner_of_ne_empty hwhole, String.ofList_eq_empty_iff.mp hnil,
        Token.ofChars_nil, Reading.ofTokens_nil]
    · intro hempty
      exact Reading.ofScanner_of_empty (htext.trans hempty)
    · rw [hbehind ys (.nodes :: zs) hys, run_start_nodes]

/-- The word for now is the first of what is left behind the sign, and so no error; what was taken
directly and what was cleared makes no difference later. -/
theorem run_reads_once_behind_sign :
    let session := start (Scanner.skip 1 (Scanner.ofText (some "d-now*")))
    let xs : List Step := [.errors, .next, .nodes, .clear, .next, .errors, .nodes]
    xs = [.errors, .next] ++ .nodes :: [.clear, .next, .errors, .nodes] ∧
      Step.nodes ∉ [Step.errors, Step.next] ∧ Step.nodes ∉ [Step.errors] ∧
      (session.run xs).1[1]? = some (.token ⟨.minus, "-"⟩) ∧
      (session.run xs).1.drop 2 = [.nodes [.now ⟨.now, "now"⟩], .cleared, .token ⟨.finish, ""⟩,
        .errors [.illegal "*"], .nodes [.now ⟨.now, "now"⟩]] ∧
      (session.run xs).2.handed.drop 1 =
        [.nodes [], .errors [.illegal "*"], .nodes [.now ⟨.now, "now"⟩]] := by
  intro session xs
  have hsplit : xs = [.errors, .next] ++ .nodes :: [.clear, .next, .errors, .nodes] := rfl
  have hmem : Step.nodes ∉ [Step.errors, Step.next] := by decide
  have hfirst : Step.nodes ∉ [Step.errors] := by decide
  obtain ⟨hhanded, hbefore, hread⟩ := run_reads_once (some "d-now*") 1 xs
  obtain ⟨unread, r, hjoin, hfresh, -, -, hanswers⟩ := hread _ _ hsplit hmem
  have htokens : Token.ofChars "d-now*".toList =
      [⟨.modifier, "d"⟩, ⟨.minus, "-"⟩, ⟨.now, "now"⟩, ⟨.illegal, "*"⟩] := by decide +kernel
  have hafter : (session.run xs).1.drop 2 = [.nodes [.now ⟨.now, "now"⟩], .cleared,
      .token ⟨.finish, ""⟩, .errors [.illegal "*"], .nodes [.now ⟨.now, "now"⟩]] := by
    rw [Option.getD_some, htokens] at hjoin
    obtain rfl : unread = "now*" := (String.append_right_inj "d-").mp hjoin
    have hrun : ((start (Scanner.ofText (some "now*"))).run [.nodes, .errors]).1 =
        [.nodes [.now ⟨.now, "now"⟩], .errors [.illegal "*"]] := by decide +kernel
    have hr := hfresh (by decide)
    rw [hrun] at hr
    obtain ⟨nodes, errors⟩ := r
    obtain ⟨rfl, rfl⟩ : [.now ⟨.now, "now"⟩] = nodes ∧ [.illegal "*"] = errors := by
      simpa using hr
    exact hanswers
  refine ⟨hsplit, hmem, hfirst, ?_, hafter, ?_⟩
  · have hnext := (hbefore [.errors] .next _ rfl hfirst).2.2 rfl
    rw [Option.getD_some, htokens] at hnext
    exact hnext
  · have htwo : (session.run xs).1.take 2 = [.errors [], .token ⟨.minus, "-"⟩] := by
      decide +kernel
    rw [hhanded, ← List.take_append_drop 2 (session.run xs).1, htwo, hafter]
    rfl

end ReadingSession

end RelativeTime

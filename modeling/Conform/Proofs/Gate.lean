import Conform.Proofs.Session
import Mathlib.Data.List.Induction

/-! One gate over any sequence of checks. Its answers are a stream from which only some checks draw,
so that which answer a check gets, and whether it is asked about at all, depends on all the checks
before it. What one more check adds is said once, and the rest follows by induction. -/
namespace Conform

/-- The answer that settled a check, if it was asked about. -/
def Ruling.answer? : Ruling → Option Answer
  | answered answer => some answer
  | tooLarge | authorized => none

/-- Checks at the gate of a session, one after another. A check that fails does not end them. -/
def consultAll : List Check → Run σ (List (Except Error Decision))
  | [] => pure []
  | c :: rest => do
    let decision ← attempt (consult c)
    let later ← consultAll rest
    return decision :: later

namespace Gate

section
variable (g : Gate)

/-- The answer to the question with this number. When the answers run out, it is no. -/
def answerTo (number : Nat) : Answer := g.answers[number]?.getD .no

def rulings (checks : List Check) : List Ruling := (g.ruleAll checks).1

/-- The gate after the checks. -/
def past (checks : List Check) : Gate := (g.ruleAll checks).2

def decisions (checks : List Check) : List (Except Error Decision) :=
  List.zipWith (fun c ruling => ruling.decision c) checks (g.rulings checks)

/-- The questions put for the checks, in their order. -/
def questions (checks : List Check) : List String :=
  (List.zipWith Event.ruled checks (g.rulings checks)).filterMap (·.question?)

/-- The answers used up by the checks, in their order. -/
def given (checks : List Check) : List Answer := (g.rulings checks).filterMap (·.answer?)

/-- Whether a check made after others is asked about. -/
def asks (before : List Check) (c : Check) : Bool :=
  c.rows < rowLimit && !(g.past before).latched

/-! ### One more check -/

theorem ruleAll_append (before after : List Check) : g.ruleAll (before ++ after) =
    (g.rulings before ++ (g.past before).rulings after, (g.past before).past after) := by
  induction before generalizing g with
  | nil => rfl
  | cons c rest ih =>
    rw [List.cons_append, ruleAll, ih]
    rfl

theorem length_rulings (checks : List Check) : (g.rulings checks).length = checks.length := by
  induction checks generalizing g with
  | nil => rfl
  | cons c rest ih => exact congrArg (· + 1) (ih (g.next (g.rule c)))

theorem length_decisions (checks : List Check) : (g.decisions checks).length = checks.length := by
  rw [decisions, List.length_zipWith, length_rulings, Nat.min_self]

theorem rulings_append (before after : List Check) :
    g.rulings (before ++ after) = g.rulings before ++ (g.past before).rulings after := by
  rw [rulings, ruleAll_append]

theorem past_append (before after : List Check) :
    g.past (before ++ after) = (g.past before).past after := by
  rw [past, ruleAll_append]

theorem decisions_append (before after : List Check) :
    g.decisions (before ++ after) = g.decisions before ++ (g.past before).decisions after := by
  rw [decisions, rulings_append, List.zipWith_append (g.length_rulings before).symm]
  rfl

theorem questions_append (before after : List Check) :
    g.questions (before ++ after) = g.questions before ++ (g.past before).questions after := by
  rw [questions, rulings_append, List.zipWith_append (g.length_rulings before).symm,
    List.filterMap_append]
  rfl

theorem given_append (before after : List Check) :
    g.given (before ++ after) = g.given before ++ (g.past before).given after := by
  rw [given, rulings_append, List.filterMap_append]
  rfl

theorem questions_singleton (c : Check) :
    g.questions [c] = if (g.rule c).asked then [c.question] else [] := by
  show [Event.ruled c (g.rule c)].filterMap _ = _
  rw [List.filterMap_cons, Event.question?_ruled]
  cases (g.rule c).asked <;> rfl

theorem given_singleton (c : Check) : g.given [c] = (g.rule c).answer?.toList := by
  show [g.rule c].filterMap _ = _
  rw [List.filterMap_cons]
  cases (g.rule c).answer? <;> rfl

/-- What a check adds, with its decision. -/
inductive Adds (c : Check) : Except Error Decision → Prop where
  | failed (large : rowLimit ≤ c.rows) (questions : g.questions [c] = [])
      (given : g.given [c] = []) (past : g.past [c] = g) :
      Adds c (.error (.tableTooLarge c.table c.rows))
  | authorized (small : c.rows < rowLimit) (latched : g.latched = true)
      (questions : g.questions [c] = []) (given : g.given [c] = []) (past : g.past [c] = g) :
      Adds c (.ok .proceed)
  | answered (answer : Answer) (small : c.rows < rowLimit) (unlatched : g.latched = false)
      (next : g.answers.head?.getD .no = answer) (questions : g.questions [c] = [c.question])
      (given : g.given [c] = [answer])
      (past : g.past [c] = { latched := answer == .yesToAll, answers := g.answers.tail }) :
      Adds c (.ok (if answer = .no then .declined else .proceed))

theorem adds (c : Check) : ∃ decision, g.decisions [c] = [decision] ∧ g.Adds c decision := by
  refine ⟨(g.rule c).decision c, rfl, ?_⟩
  have questions := g.questions_singleton c
  have given := g.given_singleton c
  have past : g.past [c] = g.next (g.rule c) := rfl
  by_cases large : rowLimit ≤ c.rows
  · have ruling : g.rule c = .tooLarge := if_pos large
    rw [ruling] at questions given past ⊢
    exact .failed large questions given past
  have small : c.rows < rowLimit := Nat.lt_of_not_le large
  cases latch : g.latched with
  | true =>
    have ruling : g.rule c = .authorized := by rw [rule, if_neg large, if_pos latch]
    rw [ruling] at questions given past ⊢
    exact .authorized small latch questions given past
  | false =>
    have ruling : g.rule c = .answered (g.answers.head?.getD .no) := by
      rw [rule, if_neg large, latch, if_neg Bool.false_ne_true]
    have decision (answer : Answer) : (Ruling.answered answer).decision c =
        .ok (if answer = .no then .declined else .proceed) := by cases answer <;> rfl
    rw [ruling] at questions given past ⊢
    rw [next, latch, Bool.false_or] at past
    rw [decision]
    exact .answered _ small latch rfl questions given past

/-! ### Any number of checks -/

/-- Each question uses up one answer. -/
theorem answers_past (checks : List Check) :
    (g.past checks).answers = g.answers.drop (g.questions checks).length := by
  induction checks using List.reverseRecOn with
  | nil => rfl
  | append_singleton before c ih =>
    rw [past_append, questions_append, List.length_append]
    obtain ⟨decision, -, adds⟩ := (g.past before).adds c
    cases adds with
    | failed _ questions _ past | authorized _ _ questions _ past =>
      rw [past, questions, ih]
      rfl
    | answered _ _ _ _ questions _ past =>
      rw [past, questions, ih, List.tail_drop]
      rfl

/-- The answers are given in their order. -/
theorem given_eq (checks : List Check) :
    g.given checks = (List.range (g.questions checks).length).map g.answerTo := by
  induction checks using List.reverseRecOn with
  | nil => rfl
  | append_singleton before c ih =>
    rw [given_append, questions_append, List.length_append, ih]
    obtain ⟨decision, -, adds⟩ := (g.past before).adds c
    cases adds with
    | failed _ questions given _ | authorized _ _ questions given _ =>
      rw [given, questions, List.append_nil]
      rfl
    | answered answer _ _ next questions given _ =>
      have last : g.answerTo (g.questions before).length = answer := by
        rw [← next, answers_past, List.head?_drop]
        rfl
      rw [given, questions, List.length_singleton, List.range_succ, List.map_append,
        List.map_singleton, last]

/-- The latch is set by the answer that allows all, and by nothing else. -/
theorem latched_past_iff (checks : List Check) : (g.past checks).latched = true ↔
    g.latched = true ∨ .yesToAll ∈ g.given checks := by
  induction checks using List.reverseRecOn with
  | nil => simp [past, given, rulings, ruleAll]
  | append_singleton before c ih =>
    rw [past_append, given_append, List.mem_append, ← or_assoc, ← ih]
    obtain ⟨decision, -, adds⟩ := (g.past before).adds c
    cases adds with
    | failed _ _ given past | authorized _ _ _ given past => simp [past, given]
    | answered answer _ unlatched _ _ given past =>
      rw [past, given, unlatched, List.mem_singleton, beq_iff_eq, eq_comm]
      simp

/-- A latch that is set stays set. -/
theorem latched_past_append (before after : List Check)
    (latched : (g.past before).latched = true) : (g.past (before ++ after)).latched = true := by
  rw [past_append, latched_past_iff]
  exact .inl latched

/-- The questions are those of the checks of few rows that come before the latch is set. -/
theorem questions_eq (checks : List Check) : g.questions checks =
    (checks.zipIdx.filter fun x => g.asks (checks.take x.2) x.1).map (·.1.question) := by
  induction checks using List.reverseRecOn with
  | nil => rfl
  | append_singleton before c ih =>
    -- The checks before an earlier one are the same with the last one added.
    have earlier : (before.zipIdx.filter fun x => g.asks ((before ++ [c]).take x.2) x.1) =
        before.zipIdx.filter fun x => g.asks (before.take x.2) x.1 := by
      refine List.filter_congr fun x member => ?_
      have inside : x.2 < before.length := List.snd_lt_of_mem_zipIdx member
      rw [List.take_append_of_le_length (Nat.le_of_lt inside)]
    rw [questions_append, List.zipIdx_append, List.filter_append, List.map_append, earlier, ← ih,
      Nat.zero_add, List.zipIdx_singleton, List.filter_cons, List.filter_nil, List.take_left, asks]
    obtain ⟨decision, -, adds⟩ := (g.past before).adds c
    cases adds with
    | failed large questions => simp [questions, Nat.not_lt.mpr large]
    | authorized _ latched questions => simp [questions, latched]
    | answered _ small unlatched _ questions => simp [questions, small, unlatched]

/-- How a check made after others is settled. -/
structure Settles (before : List Check) (c : Check) (decision : Except Error Decision) : Prop where
  fails : (∃ e, decision = .error e) ↔ rowLimit ≤ c.rows
  /-- A check that fails puts no question, uses up no answer and leaves the gate as it was. -/
  failed : rowLimit ≤ c.rows → g.questions (before ++ [c]) = g.questions before ∧
    g.given (before ++ [c]) = g.given before ∧ g.past (before ++ [c]) = g.past before
  declined : decision = .ok .declined ↔
    g.questions (before ++ [c]) = g.questions before ++ [c.question] ∧
      g.given (before ++ [c]) = g.given before ++ [.no]

theorem settles {before : List Check} {c : Check} {decision : Except Error Decision}
    (adds : (g.past before).Adds c decision) : g.Settles before c decision := by
  have questions := g.questions_append before [c]
  have given := g.given_append before [c]
  have past := g.past_append before [c]
  cases adds with
  | failed large noQuestion noAnswer same =>
    rw [noQuestion, List.append_nil] at questions
    rw [noAnswer, List.append_nil] at given
    exact ⟨by simp [large], fun _ => ⟨questions, given, past.trans same⟩, by simp [questions]⟩
  | authorized small latched noQuestion noAnswer same =>
    rw [noQuestion, List.append_nil] at questions
    exact ⟨by simp [small], fun large => absurd small (Nat.not_lt.mpr large),
      by simp [questions]⟩
  | answered answer small unlatched next question used _ =>
    rw [question] at questions
    rw [used] at given
    refine ⟨by simp [small], fun large => absurd small (Nat.not_lt.mpr large), ?_⟩
    simp [questions, given]

/-- What any sequence of checks comes to. -/
structure Accounts (checks : List Check) : Prop where
  /-- There is one decision for each check. -/
  length : (g.decisions checks).length = checks.length
  each : ∀ before c after, checks = before ++ c :: after →
    ∃ decision, (g.decisions checks)[before.length]? = some decision ∧ g.Settles before c decision
  questions : g.questions checks =
    (checks.zipIdx.filter fun x => g.asks (checks.take x.2) x.1).map (·.1.question)
  /-- As many answers are used up as questions put, from the first one on. -/
  given : g.given checks = (List.range (g.questions checks).length).map g.answerTo
  answers : (g.past checks).answers = g.answers.drop (g.questions checks).length
  latched : (g.past checks).latched = true ↔ g.latched = true ∨ .yesToAll ∈ g.given checks
  /-- The latch is never reset. -/
  keeps : ∀ before after, checks = before ++ after →
    (g.past before).latched = true → (g.past checks).latched = true

theorem accounts (checks : List Check) : g.Accounts checks where
  length := g.length_decisions checks
  each before c after split := by
    obtain ⟨decision, decided, adds⟩ := (g.past before).adds c
    refine ⟨decision, ?_, g.settles adds⟩
    rw [split, ← List.singleton_append, decisions_append, decisions_append, decided,
      List.getElem?_append_right (Nat.le_of_eq (g.length_decisions before)), length_decisions,
      Nat.sub_self]
    rfl
  questions := g.questions_eq checks
  given := g.given_eq checks
  answers := g.answers_past checks
  latched := g.latched_past_iff checks
  keeps before after split latched := by
    rw [split]
    exact g.latched_past_append before after latched

end

end Gate

/-- A check at the gate of a session leaves its ruling and nothing else, whether or not it fails. -/
theorem attempt_consult_from (c : Check) (s : Session σ) : (attempt (consult c)).from s =
    (.ok ((s.gate.rule c).decision c), { s with
      gate := s.gate.next (s.gate.rule c)
      trace := s.trace ++ [.ruled c (s.gate.rule c)] }) := by
  have consulted : (consult c).from s = ((s.gate.rule c).decision c, { s with
      gate := s.gate.next (s.gate.rule c)
      trace := s.trace ++ [.ruled c (s.gate.rule c)] }) := rfl
  rw [attempt_from, consulted]
  rcases s.gate.rule c with _ | _ | answer
  · rfl
  · rfl
  · cases answer <;> rfl

theorem consultAll_from (checks : List Check) (s : Session σ) : (consultAll checks).from s =
    (.ok (s.gate.decisions checks), { s with
      gate := s.gate.past checks
      trace := s.trace ++ List.zipWith .ruled checks (s.gate.rulings checks) }) := by
  induction checks generalizing s with
  | nil => simp [consultAll, Gate.decisions, Gate.past, Gate.ruleAll]
  | cons c rest ih =>
    rw [consultAll, Run.from_bind_of_ok (attempt_consult_from c s), Run.from_bind_of_ok (ih _),
      Run.from_pure]
    simp only [List.append_assoc]
    rfl

/-- Checks at the gate of a session, of any number, come to what the gate says of them, and touch
nothing but the gate. -/
theorem checks_account (checks : List Check) (s : Session σ) : ∃ later,
    (consultAll checks).from s = (.ok (s.gate.decisions checks), later) ∧
      later.state = s.state ∧ later.gate = s.gate.past checks ∧
      later.asked = s.asked ++ s.gate.questions checks ∧ s.gate.Accounts checks := by
  refine ⟨_, consultAll_from checks s, rfl, rfl, ?_, s.gate.accounts checks⟩
  rw [Session.asked, List.filterMap_append]
  rfl

/-- The answer meant for the small table is not used up by the large one, and the one that allows
all is the last one asked for. -/
example : let checks := [Check.mk "logs" 10000 .drop, .mk "posts" 9999 .drop,
      .mk "tags" 3 .rebuild, .mk "users" 0 .drop]
    let g : Gate := { answers := [.no, .yesToAll, .no] }
    g.decisions checks = [.error (.tableTooLarge "logs" 10000), .ok .declined, .ok .proceed,
        .ok .proceed] ∧
      g.questions checks = ["Drop table posts (9999 rows)?", "Rebuild table tags (3 rows)?"] ∧
      g.past checks = { latched := true, answers := [.no] } := by
  decide

end Conform

import CephMount.Proofs.Mount.Command
import CephMount.Proofs.Mount.Requests
import Mathlib.Algebra.Group.Nat.Defs

/-! How an option is looked up, over a boundary that may answer anything.

Main statement: a buffer of zeros is offered, and then another one of twice the size, exactly as long
as the answer is that the value is too long and the buffer was not yet the largest. The last answer
alone decides the result.
-/

set_option autoImplicit false

namespace CephMount

variable {σ : Type}

/-- What is read off the last buffer: the text before its first NUL, or the code as an error. -/
def OptionAnswer.outcome (answer : OptionAnswer) : Outcome String :=
  if answer.code = 0 then .ok (Utf8.lossy (answer.buffer.takeWhile (· != 0)))
  else .error (.library ⟨answer.code⟩)

/-- The answer says that the value does not fit. -/
def OptionAnswer.TooLong (answer : OptionAnswer) : Prop := answer.code = Errno.nameTooLong.code

theorem OptionAnswer.tooLong_of_outcome {answer : OptionAnswer}
    (failed : answer.outcome = .error (.library ⟨Errno.nameTooLong.code⟩)) : answer.TooLong := by
  unfold outcome at failed
  split at failed
  · cases failed
  · exact congrArg ErrorCode.code (Error.library.inj (Except.error.inj failed))

/-- The calls of a look-up, by their answers. Each offers zeros alone, and twice as many as the one
before. -/
def Handle.offers (handle : Handle) (key : Terminated) (first : Nat) (answers : List OptionAnswer) :
    List Entry :=
  answers.mapIdx fun round answer =>
    .called (.readOption handle key (List.replicate (first * 2 ^ round) 0)) answer

theorem Handle.length_offers (handle : Handle) (key : Terminated) (first : Nat)
    (answers : List OptionAnswer) : (handle.offers key first answers).length = answers.length :=
  List.length_mapIdx

theorem Handle.offers_cons (handle : Handle) (key : Terminated) (first : Nat) (answer : OptionAnswer)
    (more : List OptionAnswer) :
    handle.offers key first (answer :: more) =
      .called (.readOption handle key (List.replicate first 0)) answer ::
        handle.offers key (2 * first) more := by
  rw [offers, offers, List.mapIdx_cons, Nat.pow_zero, Nat.mul_one]
  refine congrArg (List.cons _) (List.mapIdx_eq_mapIdx_iff.mpr fun round inside => ?_)
  rw [Nat.pow_succ', ← Nat.mul_assoc, Nat.mul_comm first 2]

/-- The answers to a look-up that may double its buffer so often, the last one apart. -/
inductive Mount.Retries : (growths : Nat) → List OptionAnswer → OptionAnswer → Prop where
  | ends {growths : Nat} {last : OptionAnswer} : (last.TooLong → growths = 0) → Retries growths [] last
  | again {growths : Nat} {answer last : OptionAnswer} {early : List OptionAnswer} : answer.TooLong →
      Retries growths early last → Retries (growths + 1) (answer :: early) last

/-- Another buffer follows exactly when the value is too long and the buffer may still be doubled. -/
theorem Mount.Retries.round {growths round : Nat} {answer last : OptionAnswer}
    {early : List OptionAnswer} (retries : Retries growths early last)
    (found : (early ++ [last])[round]? = some answer) :
    round ≤ growths ∧ (round < early.length ↔ answer.TooLong ∧ round < growths) := by
  induction retries generalizing round with
  | ends stops =>
    cases round with
    | succ round => cases found
    | zero =>
      cases found
      refine ⟨Nat.zero_le _, iff_of_false (Nat.not_lt_zero _) fun more => ?_⟩
      exact absurd (stops more.1) (Nat.ne_of_gt more.2)
  | @again growths _ _ early long _ ih =>
    cases round with
    | zero =>
      cases found
      exact ⟨Nat.zero_le _, iff_of_true (Nat.succ_pos _) ⟨long, Nat.succ_pos _⟩⟩
    | succ round =>
      obtain ⟨bounded, follows⟩ := ih found
      rw [List.length_cons, Nat.succ_lt_succ_iff, Nat.succ_lt_succ_iff]
      exact ⟨Nat.succ_le_succ bounded, follows⟩

namespace Mount

section

variable (answers : Answers σ)

theorem finish_meets (answer : OptionAnswer) (state : σ) :
    (readOption.finish answer).Meets (.answering answers) state fun entries outcome _ =>
      Trace.calls entries = [] ∧ outcome = answer.outcome := by
  by_cases granted : answer.code = 0
  · rw [readOption.finish, granted, checkedCode_zero, OptionAnswer.outcome, if_pos granted]
    exact ⟨rfl, rfl⟩
  · rw [readOption.finish, checkedCode_of_ne _ granted, OptionAnswer.outcome, if_neg granted]
    exact ⟨rfl, rfl⟩

theorem readOption_offers (mount : Mount) (key : Terminated) (growths size : Nat) (state : σ) :
    (mount.readOption key growths size).Meets (.answering answers) state fun entries outcome _ =>
      ∃ early last, Trace.calls entries = mount.handle.offers key size (early ++ [last]) ∧
        Retries growths early last ∧ outcome = last.outcome := by
  have ends (growths size : Nat) (answer : OptionAnswer) (after : σ)
      (stops : answer.TooLong → growths = 0) :
      (readOption.finish answer).Meets (.answering answers) after fun entries outcome _ =>
        ∃ early last,
          Trace.calls (.called (.readOption mount.handle key (List.replicate size 0)) answer ::
            entries) = mount.handle.offers key size (early ++ [last]) ∧
          Retries growths early last ∧ outcome = last.outcome := by
    apply (finish_meets answers answer after).mono
    intro entries outcome _ holds
    refine ⟨[], answer, ?_, .ends stops, holds.2⟩
    rw [Trace.calls_called, holds.1, List.nil_append, Handle.offers_cons]
    rfl
  -- Each round doubles the size, so the induction is over all sizes.
  induction growths generalizing size state with
  | zero =>
    unfold readOption
    exact (Program.meets_call_answering ..).mpr (ends 0 size _ _ fun _ => rfl)
  | succ growths ih =>
    unfold readOption
    refine (Program.meets_call_answering ..).mpr ?_
    generalize answers (.readOption mount.handle key (List.replicate size 0)) state = answered
    obtain ⟨answer, after⟩ := answered
    change (if answer.code = _ then _ else _ : Program _).Meets _ _ _
    split
    next long =>
      apply (ih (2 * size) after).mono
      rintro entries outcome _ ⟨early, last, calls, retries, same⟩
      refine ⟨answer :: early, last, ?_, .again long retries, same⟩
      rw [Trace.calls_called, calls, List.cons_append, Handle.offers_cons]
    next fits => exact ends _ size answer after fun long => absurd long fits

end

/-- A look-up comes to an end after at most nine calls, each of which offers a fresh buffer for the same
option, from 256 bytes up to 65536. There is a next call exactly when the value is said to be too long
for a buffer that is not the largest, and the last answer is what the look-up gives. -/
theorem getOption_offers (answers : Answers σ) (mount : Mount) (key : String)
    (unbroken : '\x00' ∉ key.toList) (state : σ) :
    ∃ name early last entries after,
      name.Spells key ∧
      (mount.getOption key).run (.answering answers) state = ⟨.ok last.outcome, entries, after⟩ ∧
      Trace.calls entries = mount.handle.offers name 256 (early ++ [last]) ∧
      (early ++ [last]).length ≤ 9 ∧
      (∀ round answer, (early ++ [last])[round]? = some answer →
        256 * 2 ^ round ≤ 65536 ∧
          (round < early.length ↔ answer.TooLong ∧ 256 * 2 ^ round < 65536)) ∧
      (last.outcome = .error (.library ⟨Errno.nameTooLong.code⟩) →
        last.TooLong ∧ 256 * 2 ^ early.length = 65536) := by
  obtain ⟨name, crossed, spelled⟩ := Terminated.ofText_of_unbroken unbroken
  obtain ⟨entries, outcome, after, ran, early, last, calls, retries, rfl⟩ :=
    (readOption_offers answers mount name bufferGrowths firstBuffer state).run
  change (mount.readOption name bufferGrowths firstBuffer).run (.answering answers) state = _ at ran
  have smaller (round : Nat) : 256 * 2 ^ round < 65536 ↔ round < bufferGrowths := by
    rw [show 65536 = 256 * 2 ^ bufferGrowths from rfl, Nat.mul_lt_mul_left (by decide),
      Nat.pow_lt_pow_iff_right (by decide)]
  have bounded (round : Nat) (most : round ≤ bufferGrowths) : 256 * 2 ^ round ≤ 65536 :=
    Nat.mul_le_mul_left 256 (Nat.pow_le_pow_right (by decide) most)
  have whole : (early ++ [last])[early.length]? = some last := by simp
  refine ⟨name, early, last, entries, after, spelled, ?_, calls, ?_, ?_, ?_⟩
  · rw [getOption, crossed]
    exact ran
  · rw [List.length_append, List.length_singleton]
    exact Nat.succ_le_succ (retries.round whole).1
  · intro round answer found
    obtain ⟨most, follows⟩ := retries.round found
    rw [smaller]
    exact ⟨bounded round most, follows⟩
  · intro failed
    have long := OptionAnswer.tooLong_of_outcome failed
    obtain ⟨most, follows⟩ := retries.round whole
    have largest : ¬early.length < bufferGrowths := fun more =>
      Nat.lt_irrefl _ (follows.mpr ⟨long, more⟩)
    rw [Nat.le_antisymm most (Nat.not_lt.mp largest)]
    exact ⟨long, rfl⟩

/-- Says three times that the value is too long, each time with text in the buffer, and then answers
with bytes that are no text before a NUL and others behind it. -/
def growing : Answers Nat
  | .readOption _ _ _, rounds =>
    (if rounds < 3 then ⟨-36, [111, 108, 100, 0]⟩ else ⟨0, [110, 101, 119, 255, 0, 33]⟩, rounds + 1)
  | .command _ _, rounds => (⟨0, ⟨none, 0⟩, ⟨none, 0⟩⟩, rounds)
  | .create _, rounds | .createFromCluster _, rounds => (.error 0, rounds)
  | .request _ _, rounds => ((0 : Int32), rounds)
  | .currentDir _, rounds => (none, rounds)
  | .freeBuffer _ _, rounds => ((), rounds)
  | .version, rounds => (⟨0, 0, 0, none⟩, rounds)

theorem third_growth_offers :
    '\x00' ∉ "größe".toList ∧
      ∃ name early last entries after, name.Spells "größe" ∧
        (getOption ⟨⟨1⟩, .allocated⟩ "größe").run (.answering growing) 0 =
          ⟨.ok last.outcome, entries, after⟩ ∧
        last.outcome = .ok "new\ufffd" ∧
        Trace.calls entries = Handle.offers ⟨1⟩ name 256 (early ++ [last]) ∧ early.length = 3 := by
  have unbroken : '\x00' ∉ "größe".toList := by decide
  obtain ⟨name, early, last, entries, after, spells, ran, calls, -⟩ :=
    getOption_offers growing ⟨⟨1⟩, .allocated⟩ "größe" unbroken 0
  have gave : ((getOption ⟨⟨1⟩, .allocated⟩ "größe").run (.answering growing) 0).result =
      .ok (.ok "new\ufffd") := by rfl
  have four : (Trace.calls ((getOption ⟨⟨1⟩, .allocated⟩ "größe").run (.answering growing)
      0).entries).length = 4 := by decide +kernel
  rw [ran] at gave four
  rw [calls, Handle.length_offers, List.length_append] at four
  exact ⟨unbroken, name, early, last, entries, after, spells, ran, Except.ok.inj gave, calls,
    Nat.succ.inj four⟩

end Mount

end CephMount

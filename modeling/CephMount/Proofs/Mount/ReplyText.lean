import CephMount.Proofs.Decoding
import CephMount.Proofs.Mount.Command

/-! The two texts of a reply: the output, which need not be text, and the status, which is read as text
whatever it is.

Main statement: where both are the same bytes, the output is text exactly if the status text is those
bytes, and else both readings stop at one place, behind the longest text that the bytes begin with.
-/

set_option autoImplicit false

namespace CephMount

variable {σ : Type}

theorem Returned.content_of_holds {returned : Returned} {bytes : Bytes} (holds : returned.Holds bytes) :
    returned.content = bytes := by
  obtain ⟨buffer, length⟩ := returned
  cases buffer with
  | none => exact holds.symm
  | some buffer =>
    obtain ⟨measured, begins⟩ := holds
    exact (measured ▸ List.prefix_iff_eq_take.mp begins).symm

/-- Status text as one may read it in two steps: strictly, and without refusing any bytes where that
fails. -/
def Utf8.readTwice (bytes : Bytes) : String :=
  match decode bytes with
  | .ok text => text
  | .error _ => lossy bytes

theorem Utf8.readTwice_eq (bytes : Bytes) : readTwice bytes = lossy bytes := by
  unfold readTwice
  split
  next text decoded => exact (lossy_of_decode decoded).symm
  · rfl

/-- How the strict reading of a reply's output and its status text agree when both are these bytes. -/
structure CommandReply.Agrees (reply : CommandReply) (bytes : Bytes) : Prop where
  valid : ∀ text, reply.outputText = .ok text ↔ Utf8.encode reply.info = bytes ∧ text = reply.info
  invalid : ∀ fault, reply.outputText = .error fault →
    ∃ text behind, Utf8.LongestText bytes text ∧ fault.offset = (Utf8.encode text).length ∧
      fault.Marks bytes behind ∧ reply.info = text ++ behind
  steps : reply.info = Utf8.readTwice bytes

theorem CommandReply.agrees {reply : CommandReply} {bytes : Bytes} (output : reply.output = bytes)
    (info : reply.info = Utf8.lossy bytes) : reply.Agrees bytes where
  valid text := by
    rw [outputText, output, Utf8.decode_eq_ok_iff]
    constructor
    · rintro rfl
      rw [info, Utf8.lossy_encode]
      exact ⟨rfl, rfl⟩
    · rintro ⟨written, rfl⟩
      exact written
  invalid fault failed := by
    rw [outputText, output] at failed
    rcases Utf8.decode_cases bytes with ⟨_, -, decoded, -⟩ | ⟨text, other, behind, longest, also, rest⟩
    · cases failed.symm.trans decoded
    · cases failed.symm.trans also
      exact ⟨text, behind, longest, info ▸ rest⟩
  steps := info.trans (Utf8.readTwice_eq bytes).symm

namespace Mount

/-- The same bytes come back in both buffers of the reply to a command, whatever its code is. -/
def ReturnsTwice (answers : Answers σ) (mount : Mount) (line : CommandLine) (state : σ)
    (bytes : Bytes) : Prop :=
  ∀ command, line.Reads command →
    let answer := (answers (.command mount.handle command) state).1
    answer.output.Holds bytes ∧ answer.status.Holds bytes

/-- A command that can cross gives a reply. If the same bytes come back as output and as status, the
output is text exactly when the status text is written as those bytes, and then both are the same text.
Otherwise the strict reading fails where the longest text that the bytes begin with is over; the status
text is that text and a mark, and behind a stretch that is no text whatever is read from there on. -/
theorem reply_texts_agree (answers : Answers σ) (mount : Mount) (line : CommandLine) (state : σ)
    (bytes : Bytes) (target : '\x00' ∉ line.target.toList) (words : ∀ word ∈ line.arguments, 0 ∉ word)
    (some : line.arguments ≠ []) (returned : mount.ReturnsTwice answers line state bytes) :
    ∃ reply entries after,
      (mount.command line).run (.answering answers) state = ⟨.ok (.ok reply), entries, after⟩ ∧
        reply.Agrees bytes := by
  obtain ⟨command, accepted, reads⟩ := CommandLine.command_reads target words
  obtain ⟨entries, reply, after, ran, same, -⟩ :=
    (mount.send_meets answers line.target command state).run
  obtain ⟨output, status⟩ := returned command reads
  change Program.run (.answering answers) _ state = _ at ran
  refine ⟨reply, entries, after, ?ran, CommandReply.agrees ?output ?info⟩
  case ran =>
    rw [mount.command_eq some accepted, Program.run_bind, ran]
    simp [Run.follow, Program.run]
  case output => exact (congrArg CommandReply.output same).trans (Returned.content_of_holds output)
  case info =>
    rw [same]
    exact congrArg Utf8.lossy (Returned.content_of_holds status)

/-- Answers every command with a failure and the same bytes twice, each time with more behind them. -/
def echoing (bytes : Bytes) : Answers Unit
  | .command _ _, () =>
    (⟨-22, ⟨some ⟨.library 3, bytes ++ [0x80]⟩, bytes.length⟩,
      ⟨some ⟨.library 4, bytes ++ [0x41, 0]⟩, bytes.length⟩⟩, ())
  | .create _, () | .createFromCluster _, () => (.error 0, ())
  | .request _ _, () => ((0 : Int32), ())
  | .readOption _ _ _, () => (⟨0, []⟩, ())
  | .currentDir _, () => (none, ())
  | .freeBuffer _ _, () => ((), ())
  | .version, () => (⟨0, 0, 0, none⟩, ())

/-- The euro sign is cut short by a letter, and an emoji by the end. -/
def cutShort : Bytes := [0x68, 0xC3, 0xA9, 0xE2, 0x82, 0x41, 0xF0, 0x9F, 0x98]

theorem cutShort_reply_texts_agree :
    ReturnsTwice (echoing cutShort) ⟨⟨1⟩, .unmounted⟩ ⟨"mds.*", [[102, 115], []], some [0]⟩ ()
        cutShort ∧
      ∃ reply entries after,
        (command ⟨⟨1⟩, .unmounted⟩ ⟨"mds.*", [[102, 115], []], some [0]⟩).run
          (.answering (echoing cutShort)) () = ⟨.ok (.ok reply), entries, after⟩ ∧
        reply.outputText = .error ⟨3, some 2⟩ ∧ reply.info = "hé\ufffdA\ufffd" ∧ reply.Agrees cutShort := by
  have returned : ReturnsTwice (echoing cutShort) ⟨⟨1⟩, .unmounted⟩
      ⟨"mds.*", [[102, 115], []], some [0]⟩ () cutShort :=
    fun command reads => ⟨⟨rfl, List.prefix_append _ _⟩, ⟨rfl, List.prefix_append _ _⟩⟩
  obtain ⟨reply, entries, after, ran, agrees⟩ := reply_texts_agree (echoing cutShort) _ _ () cutShort
    (by decide) (by decide) (by decide) returned
  have gave : ((command ⟨⟨1⟩, .unmounted⟩ ⟨"mds.*", [[102, 115], []], some [0]⟩).run
      (.answering (echoing cutShort)) ()).result =
        .ok (.ok ⟨cutShort, "hé\ufffdA\ufffd", some ⟨-22⟩⟩) := by rfl
  rw [ran] at gave
  cases gave
  exact ⟨returned, _, entries, after, ran, rfl, rfl, agrees⟩

end Mount

end CephMount

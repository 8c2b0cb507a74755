import CephMount.Proofs.Mount.Calls
import CephMount.Proofs.Trace

/-! A command from its caller to the boundary and back, over a boundary that may answer anything.

Main statement: the boundary is called once, reads exactly the words and the input that the caller
gave, and whatever comes back reaches the caller; each buffer goes back once, the status first.
-/

set_option autoImplicit false

namespace CephMount

variable {σ : Type}

/-! Memory, as the boundary reads it. -/

/-- A string as it lies in memory, with the NUL that ends it. -/
def Terminated.memory (string : Terminated) : Bytes := string.bytes ++ [0]

/-- A command as it lies in memory. The words are counted, and a NUL stands behind the input that its
length leaves out. -/
structure CommandImage where
  target : Bytes
  words : List Bytes
  count : Nat
  input : Bytes
  inputLength : Nat

def Command.image (command : Command) : CommandImage :=
  let input := command.input ++ [0]
  { target := command.target.memory
    words := command.arguments.map Terminated.memory
    count := command.arguments.length
    input
    inputLength := input.length - 1 }

/-- What is read there: strings up to their NUL, as many words as are counted, and as much input as
its length says. -/
def CommandImage.read (image : CommandImage) : Command where
  target := .upToNul image.target
  arguments := (image.words.take image.count).map Terminated.upToNul
  input := image.input.take image.inputLength

theorem Terminated.upToNul_memory (string : Terminated) : upToNul string.memory = string := by
  obtain ⟨bytes, unbroken⟩ := string
  have stopped : (bytes ++ [0]).takeWhile (· != 0) = bytes := by
    rw [List.takeWhile_append_of_pos fun byte member => by
      simpa using fun zero : byte = 0 => unbroken (zero ▸ member)]
    simp
  simp only [upToNul, memory, stopped]

theorem Command.read_image (command : Command) : command.image.read = command := by
  obtain ⟨target, arguments, input⟩ := command
  have words : (arguments.map Terminated.memory).map Terminated.upToNul = arguments := by
    rw [List.map_map]
    exact (List.map_congr_left fun word _ => word.upToNul_memory).trans (List.map_id arguments)
  simp [image, CommandImage.read, Terminated.upToNul_memory, words]

/-! Text without a NUL. -/

/-- Only the NUL character is written with a NUL byte. -/
theorem Utf8.zero_mem_encodeChar {value : Char} (zero : 0 ∈ encodeChar value) : value = '\x00' := by
  have wrapped {byte : Nat} (same : (0 : UInt8) = .ofNat byte) : byte % 256 = 0 := by
    simpa using (congrArg UInt8.toNat same).symm
  have most : value.toNat < 0x110000 := by
    have valid := value.valid
    simp only [UInt32.isValidChar, Nat.isValidChar] at valid
    change value.val.toNat < _
    omega
  simp only [encodeChar] at zero
  split at zero
  · have null := wrapped (List.mem_singleton.mp zero)
    apply Char.ext
    apply UInt32.toNat.inj
    change value.toNat = 0
    omega
  -- The bytes of the longer forms are all at least 0x80.
  split at zero
  · simp only [List.mem_cons, List.not_mem_nil, or_false] at zero
    rcases zero with same | same
    all_goals
      have remainder := wrapped same
      omega
  split at zero
  · simp only [List.mem_cons, List.not_mem_nil, or_false] at zero
    rcases zero with same | same | same
    all_goals
      have remainder := wrapped same
      omega
  · simp only [List.mem_cons, List.not_mem_nil, or_false] at zero
    rcases zero with same | same | same | same
    all_goals
      have remainder := wrapped same
      omega

theorem Terminated.ofText_of_unbroken {text : String} (unbroken : '\x00' ∉ text.toList) :
    ∃ string, ofText text = .ok string ∧ string.bytes = Utf8.encode text := by
  have noNul : 0 ∉ Utf8.encode text := by
    intro zero
    obtain ⟨value, member, zero⟩ := List.mem_flatMap.mp zero
    exact unbroken (Utf8.zero_mem_encodeChar zero ▸ member)
  exact ⟨⟨_, noNul⟩, ofBytes_eq_ok_iff.mpr rfl, rfl⟩

theorem Terminated.mapM_ofBytes {words : List Bytes} (unbroken : ∀ word ∈ words, 0 ∉ word) :
    ∃ strings, words.mapM ofBytes = .ok strings ∧ strings.map Terminated.bytes = words := by
  induction words with
  | nil => exact ⟨[], rfl, rfl⟩
  | cons word rest ih =>
    obtain ⟨strings, accepted, same⟩ := ih fun other member =>
      unbroken other (List.mem_cons_of_mem _ member)
    have first : ofBytes word = .ok ⟨word, unbroken word List.mem_cons_self⟩ :=
      ofBytes_eq_ok_iff.mpr rfl
    refine ⟨⟨word, unbroken word List.mem_cons_self⟩ :: strings, ?_, ?_⟩
    · rw [List.mapM_cons, first, accepted]
      rfl
    · rw [List.map_cons, same]

/-- The command is what its caller gave, byte for byte. -/
structure CommandLine.Reads (line : CommandLine) (command : Command) : Prop where
  target : command.target.bytes = Utf8.encode line.target
  words : command.arguments.map Terminated.bytes = line.arguments
  input : command.input = line.input.getD []

theorem CommandLine.command_reads {line : CommandLine} (target : '\x00' ∉ line.target.toList)
    (words : ∀ word ∈ line.arguments, 0 ∉ word) :
    ∃ command, line.command = .ok command ∧ line.Reads command := by
  obtain ⟨string, accepted, sameTarget⟩ := Terminated.ofText_of_unbroken target
  obtain ⟨strings, allAccepted, sameWords⟩ := Terminated.mapM_ofBytes words
  refine ⟨⟨string, strings, line.input.getD []⟩, ?_, sameTarget, sameWords, rfl⟩
  rw [command, accepted]
  change (line.arguments.mapM Terminated.ofBytes >>= _) = _
  rw [allAccepted]
  rfl

/-! The answer and its buffers. -/

/-- A buffer is as long as is said of it. -/
def Returned.Backed (returned : Returned) : Prop :=
  ∀ buffer, returned.buffer = some buffer → returned.length ≤ buffer.bytes.length

/-- No reply to a command says more of a buffer than it holds. -/
def Answers.BacksBuffers (answers : Answers σ) : Prop :=
  ∀ handle command state,
    (answers (.command handle command) state).1.output.Backed ∧
      (answers (.command handle command) state).1.status.Backed

/-- The bytes are the first ones of the buffer, as many as are said; a null pointer has none,
whatever is said. -/
def Returned.Holds (returned : Returned) (bytes : Bytes) : Prop :=
  match returned.buffer with
  | none => bytes = []
  | some buffer => bytes.length = returned.length ∧ bytes <+: buffer.bytes

/-- The calls that hand a buffer back, which a null pointer has none of. -/
def Returned.returns (returned : Returned) (part : ReplyPart) : List Entry :=
  match returned.buffer with
  | none => []
  | some buffer => [.called (.freeBuffer part buffer.id) ()]

theorem Returned.content_holds {returned : Returned} (backed : returned.Backed) :
    returned.Holds returned.content := by
  obtain ⟨buffer, length⟩ := returned
  cases buffer with
  | none => rfl
  | some buffer =>
    exact ⟨List.length_take_of_le (backed buffer rfl), List.take_prefix length buffer.bytes⟩

@[simp] theorem Returned.calls_returns (returned : Returned) (part : ReplyPart) :
    Trace.calls (returned.returns part) = returned.returns part := by
  obtain ⟨buffer, length⟩ := returned
  cases buffer <;> rfl

/-- A reply that keeps everything of an answer, also of one that is a failure. -/
structure CommandAnswer.Gives (answer : CommandAnswer) (reply : CommandReply) : Prop where
  output : answer.output.Holds reply.output
  info : ∃ status, answer.status.Holds status ∧ reply.info = Utf8.lossy status
  success : reply.error = none ↔ answer.code = 0
  failure : ∀ error, reply.error = some error → error.code = answer.code

namespace Mount

theorem takeBuffer_meets (answers : Answers σ) (part : ReplyPart) (returned : Returned) (state : σ) :
    (takeBuffer part returned).Meets (.answering answers) state fun entries bytes _ =>
      bytes = returned.content ∧ entries = returned.returns part := by
  obtain ⟨buffer, length⟩ := returned
  cases buffer with
  | none => exact ⟨rfl, rfl⟩
  | some buffer => exact (Program.meets_call_answering ..).mpr ⟨rfl, rfl⟩

theorem send_meets (answers : Answers σ) (mount : Mount) (target : String) (command : Command)
    (state : σ) :
    (mount.send target command).Meets (.answering answers) state fun entries reply _ =>
      let answer := (answers (.command mount.handle command) state).1
      reply = ⟨answer.output.content, Utf8.lossy answer.status.content, ErrorCode.ofCode? answer.code⟩ ∧
        Trace.calls entries = .called (.command mount.handle command) answer ::
          (answer.status.returns .status ++ answer.output.returns .output) := by
  apply (Program.meets_call_answering ..).mpr
  generalize (answers (.command mount.handle command) state).1 = answer
  simp only [Program.bind_eq_bind, Program.bind, Program.meets_bind]
  apply (takeBuffer_meets answers .status answer.status _).mono
  intro first status between taken
  apply (takeBuffer_meets answers .output answer.output between).mono
  intro second output _ copied
  obtain ⟨rfl, rfl⟩ := taken
  obtain ⟨rfl, rfl⟩ := copied
  -- The report of a failure comes after all calls.
  cases ErrorCode.ofCode? answer.code with
  | none => exact ⟨rfl, by simp⟩
  | some error => exact ⟨rfl, by simp⟩

/-- How a command runs: what crosses, what comes back, and which calls are made. -/
def Delivers (answers : Answers σ) (mount : Mount) (line : CommandLine) (state : σ) : Prop :=
  ∃ command reply entries after,
    (mount.command line).run (.answering answers) state = ⟨.ok (.ok reply), entries, after⟩ ∧
      line.Reads command.image.read ∧
      let answer := (answers (.command mount.handle command) state).1
      answer.Gives reply ∧
        Trace.calls entries = .called (.command mount.handle command) answer ::
          (answer.status.returns .status ++ answer.output.returns .output)

theorem command_eq (mount : Mount) {line : CommandLine} {command : Command}
    (some : line.arguments ≠ []) (accepted : line.command = .ok command) :
    mount.command line =
      (mount.send line.target command).bind fun reply => .done (.ok reply) := by
  rw [Mount.command, if_neg (by simpa using some), accepted]
  rfl

/-- A command that can cross is sent once and exactly, and what comes back is kept whole: the output,
the status text and the failure, if there was one. Each buffer goes back once, the status first, also
an empty one and also after a failure. -/
theorem command_delivers (answers : Answers σ) (backed : answers.BacksBuffers) (mount : Mount)
    (line : CommandLine) (state : σ) (target : '\x00' ∉ line.target.toList)
    (words : ∀ word ∈ line.arguments, 0 ∉ word) (some : line.arguments ≠ []) :
    mount.Delivers answers line state := by
  obtain ⟨command, accepted, reads⟩ := CommandLine.command_reads target words
  obtain ⟨entries, reply, after, ran, same, calls⟩ :=
    (mount.send_meets answers line.target command state).run
  obtain ⟨backedOutput, backedStatus⟩ := backed mount.handle command state
  refine ⟨command, reply, entries, after, ?_, command.read_image.symm ▸ reads, ?_, calls⟩
  · change Program.run (.answering answers) _ state = _ at ran
    rw [mount.command_eq some accepted, Program.run_bind, ran]
    simp [Run.follow, Program.run]
  · subst same
    refine ⟨Returned.content_holds backedOutput, ⟨_, Returned.content_holds backedStatus, rfl⟩, ?_, ?_⟩
    · by_cases zero : (answers (.command mount.handle command) state).1.code = 0 <;>
        simp [ErrorCode.ofCode?, zero]
    · intro error failed
      unfold ErrorCode.ofCode? at failed
      split at failed
      · cases failed
      · cases failed
        rfl

/-- Answers a command with a failure, an empty status buffer and an output longer than is said. -/
def refusing : Answers Unit
  | .command _ _, () =>
    (⟨-2, ⟨some ⟨.library 7, [104, 105, 33]⟩, 2⟩, ⟨some ⟨.library 8, []⟩, 0⟩⟩, ())
  | .create _, () | .createFromCluster _, () => (.error 0, ())
  | .request _ _, () => ((0 : Int32), ())
  | .readOption _ _ _, () => (⟨0, []⟩, ())
  | .currentDir _, () => (none, ())
  | .freeBuffer _ _, () => ((), ())
  | .version, () => (⟨0, 0, 0, none⟩, ())

theorem refusing_backsBuffers : refusing.BacksBuffers := by
  intro handle command state
  refine ⟨fun buffer same => ?_, fun buffer same => ?_⟩
  · cases same
    exact (by decide : 2 ≤ 3)
  · cases same
    exact Nat.le_refl 0

theorem refused_command_delivers :
    refusing.BacksBuffers ∧
      Delivers refusing ⟨⟨1⟩, .unmounted⟩ ⟨"mds.*", [[102, 115], []], some [0, 7, 0]⟩ () :=
  ⟨refusing_backsBuffers, command_delivers refusing refusing_backsBuffers _ _ _ (by decide)
    (by decide) (by decide)⟩

end Mount

end CephMount

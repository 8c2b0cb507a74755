import CephMount.Proofs.InMemory.Commands
import CephMount.Proofs.InMemory.Histories

/-! The options of a handle, told from what was written on it.

Only requests that set an option or read a variable write, and only those that succeed. What a handle
keeps is what was written on it, from left to right, whatever else happened. It is read back with
buffers that grow until the value fits or they may grow no more.
-/

set_option autoImplicit false

namespace CephMount

open InMemory

/-! The last of some writes. -/

/-- The value that the last write of a key gives it. -/
def lastWrite (key : String) (writes : List (String × String)) : Option String :=
  writes.reverse.lookup key

theorem lastWrite_append (key : String) (early late : List (String × String)) :
    lastWrite key (early ++ late) = (lastWrite key late).or (lastWrite key early) := by
  rw [lastWrite, List.reverse_append, List.lookup_append]
  rfl

theorem lastWrite_singleton (key : String) (write : String × String) :
    lastWrite key [write] = if key = write.1 then some write.2 else none := by
  rw [lastWrite, List.reverse_singleton, List.lookup_cons]
  by_cases same : key = write.1
  · simp [same]
  · simp [same, beq_eq_false_iff_ne.mpr same]

theorem lastWrite_of_unwritten {key : String} {writes : List (String × String)}
    (unwritten : ∀ write ∈ writes, write.1 ≠ key) : lastWrite key writes = none := by
  refine List.lookup_eq_none_iff.mpr fun write member => ?_
  have distinct := unwritten write (List.mem_reverse.mp member)
  simpa using Ne.symm distinct

theorem lastWrite_of_written {key value : String} (early : List (String × String))
    {late : List (String × String)} (unwritten : ∀ write ∈ late, write.1 ≠ key) :
    lastWrite key (early ++ ([(key, value)] ++ late)) = some value := by
  rw [lastWrite_append, lastWrite_append, lastWrite_of_unwritten unwritten, lastWrite_singleton,
    if_pos rfl, Option.none_or, Option.some_or]

/-- A table holds what was written into it last, and otherwise what it held. -/
theorem get?_insertAll (table : Table String String) (writes : List (String × String)) (key : String) :
    (table.insertAll writes).get? key = (lastWrite key writes).or (table.get? key) := by
  induction writes generalizing table with
  | nil => rfl
  | cons first rest ih =>
    have last : lastWrite key (first :: rest) = (lastWrite key rest).or (lastWrite key [first]) :=
      lastWrite_append key [first] rest
    have later := ih (table.insert first.1 first.2)
    rw [last, Option.or_assoc]
    refine later.trans (congrArg _ ?_)
    rw [lastWrite_singleton, Table.get?_insert]
    split <;> rfl

/-! What is read back. -/

/-- A call that is answered leads to where the rest of the program leads. -/
theorem Program.run_answered {σ α : Type} {boundary : Boundary σ} {call : Call}
    {next : call.Reply → Program α} {state after final : σ} {reply : call.Reply}
    {result : Except Misuse α} (answered : boundary call state = (.ok reply, after))
    (rest : ∃ entries, (next reply).run boundary after = ⟨result, entries, final⟩) :
    ∃ entries, (Program.call call next).run boundary state = ⟨result, entries, final⟩ := by
  obtain ⟨entries, ran⟩ := rest
  exact ⟨.called call reply :: entries, by rw [run, answered]; simp only [ran]⟩

/-- The text before its first NUL. -/
def beforeNul (text : String) : String := String.ofList (text.toList.takeWhile (· != '\x00'))

theorem beforeNul_of_unbroken {text : String} (unbroken : '\x00' ∉ text.toList) :
    beforeNul text = text := by
  have whole : (text.toList ++ []).takeWhile (· != '\x00') = text.toList ++ [] :=
    List.takeWhile_append_of_pos fun value member => by
      simpa using fun same : value = '\x00' => unbroken (same ▸ member)
  rw [List.append_nil] at whole
  rw [beforeNul, whole, String.ofList_toList]

/-- Of a text with a NUL behind it the bytes up to the first NUL are those of the text up to its own. -/
theorem upToNul_encode (text : String) (rest : Bytes) :
    (Terminated.upToNul (Utf8.encode text ++ 0 :: rest)).text = beforeNul text := by
  have cut (characters : List Char) :
      (characters.flatMap Utf8.encodeChar ++ 0 :: rest).takeWhile (· != 0) =
        (characters.takeWhile (· != '\x00')).flatMap Utf8.encodeChar := by
    induction characters with
    | nil => rfl
    | cons first later ih =>
      by_cases nul : first = '\x00'
      · subst nul
        rfl
      · have whole : ∀ byte ∈ Utf8.encodeChar first, (byte != 0) = true := fun byte member => by
          simpa using fun zero : byte = 0 => nul (Utf8.zero_mem_encodeChar (zero ▸ member))
        rw [List.flatMap_cons, List.append_assoc, List.takeWhile_append_of_pos whole, ih,
          List.takeWhile_cons_of_pos (by simpa using nul), List.flatMap_cons]
  have spelled : (Terminated.upToNul (Utf8.encode text ++ 0 :: rest)).bytes =
      Utf8.encode (beforeNul text) := by
    rw [beforeNul, Utf8.encode, Utf8.encode, String.toList_ofList]
    exact cut text.toList
  rw [Terminated.text, spelled, Utf8.lossy_encode]

namespace InMemory

/-- What a look-up with this much room in the last buffer gives; a NUL needs room as well. -/
def Record.recall (record : Record) (key : String) (room : Nat) : Outcome String :=
  match record.options.get? key with
  | none => .error (.library ⟨Errno.noEntry.code⟩)
  | some value =>
    if (Utf8.encode value).length < room then .ok (beforeNul value)
    else .error (.library ⟨Errno.nameTooLong.code⟩)

end InMemory

namespace Mount

variable {library : Library} {record : Record}

/-- A buffer that was filled is read up to its first NUL. -/
theorem finish_filled (value : String) (rest : Bytes) (state : Library) :
    (readOption.finish ⟨0, Utf8.encode value ++ 0 :: rest⟩).run Library.answer state =
      ⟨.ok (.ok (beforeNul value)), [], state⟩ := by
  rw [readOption.finish, checkedCode_zero]
  simp [Program.bind, Program.run, upToNul_encode]

theorem finish_failed {answer : OptionAnswer} (failed : answer.code ≠ 0) (state : Library) :
    ∃ entries, (readOption.finish answer).run Library.answer state =
      ⟨.ok (.error (.library ⟨answer.code⟩)), entries, state⟩ := by
  rw [readOption.finish, checkedCode_of_ne _ failed]
  exact ⟨_, rfl⟩

/-- What comes of one buffer: the value with a NUL behind it, or a code that leaves the buffer. -/
inductive Reads (record : Record) (key : String) (size : Nat) : OptionAnswer → Prop where
  | absent {buffer : Bytes} : record.options.get? key = none →
      Reads record key size ⟨Errno.noEntry.code, buffer⟩
  | tooLong {value : String} {buffer : Bytes} : record.options.get? key = some value →
      size ≤ (Utf8.encode value).length → Reads record key size ⟨Errno.nameTooLong.code, buffer⟩
  | filled {value : String} {rest : Bytes} : record.options.get? key = some value →
      (Utf8.encode value).length < size → Reads record key size ⟨0, Utf8.encode value ++ 0 :: rest⟩

theorem reads_answer (record : Record) (key : String) (size : Nat) :
    Reads record key size (record.readOption key (List.replicate size 0)) := by
  unfold Record.readOption storeOption
  cases held : record.options.get? key with
  | none => exact .absent held
  | some value =>
    rw [List.length_replicate]
    dsimp only
    split
    next short => exact .tooLong held (Nat.lt_succ_iff.mp short)
    next fits => exact .filled held (Nat.not_lt.mp fits)

/-- The answer to the last buffer that is offered gives what a look-up with its room gives. -/
theorem finish_recalls {key : String} {size room : Nat} {answer : OptionAnswer}
    (reads : Reads record key size answer) (larger : size ≤ room)
    (last : answer.code = Errno.nameTooLong.code → room = size) :
    ∃ entries, (readOption.finish answer).run Library.answer library =
      ⟨.ok (record.recall key room), entries, library⟩ := by
  unfold Record.recall
  cases reads with
  | absent held =>
    rw [held]
    exact finish_failed (show Errno.noEntry.code ≠ 0 by decide) library
  | tooLong held long =>
    rw [held]
    dsimp only
    rw [last rfl, if_neg (Nat.not_lt.mpr long)]
    exact finish_failed (show Errno.nameTooLong.code ≠ 0 by decide) library
  | @filled value rest held fits =>
    rw [held]
    dsimp only
    rw [if_pos (Nat.lt_of_lt_of_le fits larger)]
    exact ⟨[], finish_filled value rest library⟩

/-- The size of the last buffer, when it is doubled as often as `growths` says. -/
def lastBuffer : (growths size : Nat) → Nat
  | 0, size => size
  | growths + 1, size => lastBuffer growths (2 * size)

theorem le_lastBuffer (growths size : Nat) : size ≤ lastBuffer growths size := by
  induction growths generalizing size with
  | zero => exact Nat.le_refl size
  | succ growths ih => exact Nat.le_trans (Nat.le_mul_of_pos_left size Nat.two_pos) (ih (2 * size))

/-- What fits into the last buffer is read, and what does not is too long. -/
theorem readOption_recalls (mount : Mount) (key : Terminated) (growths size : Nat)
    (found : library.record? mount.handle = some record) :
    ∃ entries, (mount.readOption key growths size).run Library.answer library =
      ⟨.ok (record.recall key.text (lastBuffer growths size)), entries, library⟩ := by
  have answered (size : Nat) :
      Library.answer (.readOption mount.handle key (List.replicate size 0)) library =
        (.ok (record.readOption key.text (List.replicate size 0)), library) := by
    rw [Library.answer, Library.look, found]
  -- Each round doubles the size, so the induction is over all sizes.
  induction growths generalizing size with
  | zero =>
    unfold readOption
    refine Program.run_answered (answered size) ?_
    exact finish_recalls (reads_answer record key.text size) (Nat.le_refl size) fun _ => rfl
  | succ growths ih =>
    unfold readOption
    refine Program.run_answered (answered size) ?_
    change ∃ entries, (if _ = Errno.nameTooLong.code then _ else _ : Program _).run _ library = _
    split
    · exact ih (2 * size)
    next fits =>
      exact finish_recalls (reads_answer record key.text size) (le_lastBuffer (growths + 1) size)
        fun long => absurd long fits

/-- A look-up of an option gives what there is room for in the last buffer, and leaves all as it is. -/
theorem getOption_run (mount : Mount) {key : String} (unbroken : '\x00' ∉ key.toList)
    (found : library.record? mount.handle = some record) :
    ∃ entries, (mount.getOption key).run Library.answer library =
      ⟨.ok (record.recall key 65536), entries, library⟩ := by
  obtain ⟨name, crossed, spelled⟩ := Terminated.ofText_of_unbroken unbroken
  have spells : name.Spells key := spelled
  have largest : lastBuffer bufferGrowths firstBuffer = 65536 := by decide
  obtain ⟨entries, ran⟩ := mount.readOption_recalls name bufferGrowths firstBuffer found
  rw [spells.text_eq, largest] at ran
  rw [getOption, crossed]
  exact ⟨entries, ran⟩

theorem getOption_recalls (mount : Mount) {key : String} (unbroken : '\x00' ∉ key.toList)
    (found : library.record? mount.handle = some record) :
    ∃ entries, (mount.perform (.getOption key)).run Library.answer library =
      ⟨.ok ((record.recall key 65536).map .text, mount), entries, library⟩ := by
  obtain ⟨entries, ran⟩ := mount.getOption_run unbroken found
  refine ⟨entries ++ [], (Program.run_bind ..).trans ?_⟩
  rw [ran]
  rfl

end Mount

/-! What is written. -/

/-- What a request writes when it succeeds. -/
def Request.writes (surroundings : Surroundings) : Request → List (String × String)
  | .setOption key value => [(key.text, value.text)]
  | .parseEnv name => Argument.settingsOf (surroundings.variableText name)
  | _ => []

/-- What an entry writes on a handle: that of a request on it that succeeded. -/
def Entry.writes (surroundings : Surroundings) (handle : Handle) : Entry → List (String × String)
  | .called (.request holder request) code =>
    if holder = handle ∧ code = 0 then request.writes surroundings else []
  | _ => []

def Trace.writes (surroundings : Surroundings) (handle : Handle) (entries : List Entry) :
    List (String × String) :=
  entries.flatMap (Entry.writes surroundings handle)

@[simp] theorem Trace.writes_append (surroundings : Surroundings) (handle : Handle)
    (first rest : List Entry) :
    writes surroundings handle (first ++ rest) =
      writes surroundings handle first ++ writes surroundings handle rest := List.flatMap_append

/-- Reports write nothing. -/
theorem Trace.writes_calls (surroundings : Surroundings) (handle : Handle) (entries : List Entry) :
    writes surroundings handle (calls entries) = writes surroundings handle entries := by
  induction entries with
  | nil => rfl
  | cons entry rest ih =>
    cases entry with
    | called call reply => exact congrArg (_ ++ ·) ih
    | reported event => exact ih

namespace InMemory

/-- A request that is served leaves the options with what it writes put into them. -/
theorem Record.serve_options {record after : Record} {surroundings : Surroundings} {request : Request}
    (served : record.serve surroundings request = .ok after) :
    after.options = record.options.insertAll (request.writes surroundings) := by
  cases request with
  | readConfig list => rw [of_readConfig served]; rfl
  | parseEnv name | setOption key value | isMounted => cases served; rfl
  | mount root =>
    simp only [Record.serve, Record.mount] at served
    split at served <;> cases served
    rfl
  | unmount =>
    simp only [Record.serve, Record.unmount] at served
    split at served <;> cases served
    rfl
  | release =>
    simp only [Record.serve] at served
    split at served <;> cases served
    rfl
  | _ =>
    obtain ⟨_, _, _, rfl⟩ := serve_frame rfl served
    rfl

/-- The options are those that were written. -/
def Record.Written (writes : List (String × String)) (record : Record) : Prop :=
  record.options = Table.empty.insertAll writes

theorem Record.written_telling :
    Telling (fun surroundings _ => Request.writes surroundings) Written where
  new _ _ := rfl
  flag _ _ _ written := written
  serve past record after surroundings request served written := by
    have before : record.options = Table.empty.insertAll past := written
    rw [Written, serve_options served, before, Table.insertAll, Table.insertAll, Table.insertAll,
      List.foldl_append]

namespace Library

/-- Every handle keeps what was written on it, nothing was written on a handle that is still to come,
and no failure that is laid up says success. -/
structure Recalls (library : Library) (writes : Handle → List (String × String)) : Prop where
  options : ∀ handle record, library.record? handle = some record →
    record.options = Table.empty.insertAll (writes handle)
  unborn : ∀ handle, library.nextHandle ≤ handle.number → writes handle = []
  numbered : library.Numbered
  failuresFail : library.FailuresFail

variable {library after : Library} {writes more : Handle → List (String × String)}

theorem recalls_iff : library.Recalls writes ↔ library.Tells Record.Written writes :=
  ⟨fun recalls => ⟨recalls.options, recalls.unborn, recalls.numbered, recalls.failuresFail⟩,
    fun tells => ⟨tells.told, tells.unborn, tells.numbered, tells.failuresFail⟩⟩

/-- A call that is answered writes what is noted for it, for on a dead handle nothing succeeds. -/
theorem notes_writes (fail : library.FailuresFail) {call : Call} {reply : call.Reply}
    (answered : answer call library = (.ok reply, after)) (handle : Handle) :
    library.notes (fun surroundings _ => Request.writes surroundings) handle call reply =
      (Entry.called call reply).writes library.surroundings handle := by
  cases call with
  | request holder request =>
    rw [notes, Entry.writes]
    cases found : library.record? holder with
    | none =>
      have failed : reply ≠ (0 : Int32) := fail.failed_of_dead found answered
      rw [if_neg fun both => failed both.2, if_neg fun both => failed both.2]
    | some record => rfl
  | _ => rfl

namespace Recalls

theorem of_kept (recalls : library.Recalls writes) (records : after.records = library.records)
    (number : after.nextHandle = library.nextHandle) (spends : Spends library after) :
    after.Recalls writes :=
  recalls_iff.mpr ((recalls_iff.mp recalls).of_kept records number spends)

theorem of_same (recalls : library.Recalls writes) (same : ∀ handle, more handle = writes handle) :
    library.Recalls more := recalls_iff.mpr ((recalls_iff.mp recalls).of_same same)

theorem failNext (recalls : library.Recalls writes) (call : String) {code : Int32} (honest : code ≠ 0) :
    (library.failNext call code).Recalls writes :=
  recalls_iff.mpr ((recalls_iff.mp recalls).failNext call honest)

/-- Whether a handle is mounted has nothing to do with its options. -/
theorem setMountedFlag (recalls : library.Recalls writes) (handle : Handle) (mounted : Bool) :
    (library.setMountedFlag handle mounted).Recalls writes :=
  recalls_iff.mpr (Tells.setMountedFlag Record.written_telling (recalls_iff.mp recalls) handle mounted)

/-- Whatever is called and answered, what was written is kept, and what is written now besides. -/
theorem answered (recalls : library.Recalls writes) {call : Call} {reply : call.Reply}
    (answered : answer call library = (.ok reply, after)) :
    after.Recalls fun handle =>
      writes handle ++ (Entry.called call reply).writes library.surroundings handle := by
  have tells := Tells.answered Record.written_telling (recalls_iff.mp recalls) answered
  refine recalls_iff.mpr (tells.of_same fun handle => ?_)
  rw [notes_writes recalls.failuresFail answered]

/-- A call that is refused writes nothing. -/
theorem refused (recalls : library.Recalls writes) {call : Call} {misuse : Misuse}
    (refused : answer call library = (.error misuse, after)) : after.Recalls writes :=
  recalls_iff.mpr (Tells.refused Record.written_telling (recalls_iff.mp recalls) refused)

/-- What a run calls, also one that is cut short, writes on the handles what its entries say. -/
theorem run {α : Type} (program : Program α) (recalls : library.Recalls writes) :
    let run := program.run Library.answer library
    run.state.surroundings = library.surroundings ∧ run.state.Recalls fun handle =>
      writes handle ++ Trace.writes library.surroundings handle run.entries := by
  induction program generalizing library writes with
  | done result => exact ⟨rfl, recalls.of_same fun _ => List.append_nil _⟩
  | log event next ih => exact ih recalls
  | call request next ih =>
    obtain ⟨_, _, _, _, _, _, _, left⟩ := library.answer_frame request
    have same : (answer request library).2.surroundings = library.surroundings := by rw [left]
    rw [Program.run]
    split
    next misuse after refused =>
      rw [refused] at same
      exact ⟨same, (recalls.refused refused).of_same fun _ => List.append_nil _⟩
    next reply after answered =>
      rw [answered] at same
      change after.surroundings = _ at same
      obtain ⟨kept, later⟩ := ih reply (recalls.answered answered)
      rw [same] at kept later
      refine ⟨kept, later.of_same fun handle => ?_⟩
      exact (List.append_assoc ..).symm

end Recalls

end Library

end InMemory

end CephMount

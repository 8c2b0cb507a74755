import CephMount.Proofs.Mount.History

/-! The courses that an operation can take, whichever boundary it is run against.

An operation is rejected before it calls anything, or it begins with a call that carries what it was
given. Most operations are then over but for their report: the code of that call decides what they
give.
-/

set_option autoImplicit false

namespace CephMount

variable {σ α β : Type}

/-! The first NUL among several strings. -/

/-- Of these strings, the first one that holds a NUL has its first one at this offset. -/
def FirstNul (strings : List Bytes) (offset : Nat) : Prop :=
  ∃ early string late, strings = early ++ string :: late ∧ (∀ other ∈ early, 0 ∉ other) ∧
    NulAt string offset

theorem not_firstNul_nil {offset : Nat} : ¬FirstNul [] offset := by
  rintro ⟨early, string, late, split, -, -⟩
  exact List.append_ne_nil_of_right_ne_nil early (List.cons_ne_nil string late) split.symm

theorem firstNul_cons {string : Bytes} {rest : List Bytes} {offset : Nat} :
    FirstNul (string :: rest) offset ↔ NulAt string offset ∨ 0 ∉ string ∧ FirstNul rest offset := by
  constructor
  · rintro ⟨early, broken, late, split, unbroken, nul⟩
    cases early with
    | nil =>
      cases split
      exact .inl nul
    | cons first early =>
      obtain ⟨rfl, rfl⟩ := List.cons.inj split
      obtain ⟨first, others⟩ := List.forall_mem_cons.mp unbroken
      exact .inr ⟨first, early, broken, late, rfl, others, nul⟩
  · rintro (nul | ⟨first, early, broken, late, rfl, others, nul⟩)
    · exact ⟨[], string, rest, rfl, fun _ member => (nomatch member), nul⟩
    · exact ⟨string :: early, broken, late, rfl, List.forall_mem_cons.mpr ⟨first, others⟩, nul⟩

theorem NulAt.firstNul {string : Bytes} {rest : List Bytes} {offset : Nat} (nul : NulAt string offset) :
    FirstNul (string :: rest) offset := firstNul_cons.mpr (.inl nul)

/-- Strings are taken across one after the other, and the first one that cannot cross ends that. -/
theorem Terminated.mapM_ofBytes_eq_error_iff {strings : List Bytes} {offset : Nat} :
    strings.mapM ofBytes = .error offset ↔ FirstNul strings offset := by
  induction strings with
  | nil => exact iff_of_false nofun not_firstNul_nil
  | cons string rest ih =>
    rw [List.mapM_cons, firstNul_cons, ← ih, ← ofBytes_eq_error_iff_nulAt]
    cases crossed : ofBytes string with
    | error first =>
      have broken : 0 ∈ string := (ofBytes_eq_error_iff.mp crossed).1
      simp [broken, bind, Except.bind]
    | ok first =>
      have unbroken : 0 ∉ string := ofBytes_eq_ok_iff.mp crossed ▸ first.unbroken
      cases rest.mapM ofBytes with
      | error later => simp [unbroken, bind, Except.bind]
      | ok strings => simp [bind, Except.bind, pure, Except.pure]

theorem Terminated.mapM_ofBytes_of_ok {words : List Bytes} {strings : List Terminated}
    (crossed : words.mapM ofBytes = .ok strings) : strings.map Terminated.bytes = words := by
  induction words generalizing strings with
  | nil =>
    cases crossed
    rfl
  | cons word rest ih =>
    rw [List.mapM_cons] at crossed
    obtain ⟨first, taken, crossed⟩ := Except.of_bind_eq_ok crossed
    obtain ⟨others, later, crossed⟩ := Except.of_bind_eq_ok crossed
    cases crossed
    rw [List.map_cons, ih later, ofBytes_eq_ok_iff.mp taken]

theorem FirstNul.unique {strings : List Bytes} {offset other : Nat} (first : FirstNul strings offset)
    (second : FirstNul strings other) : offset = other := by
  have one := Terminated.mapM_ofBytes_eq_error_iff.mpr first
  have two := Terminated.mapM_ofBytes_eq_error_iff.mpr second
  exact Except.error.inj (one.symm.trans two)

/-- Some string holds a NUL exactly when there is a first one that does. -/
theorem exists_firstNul_iff {strings : List Bytes} :
    (∃ offset, FirstNul strings offset) ↔ ∃ string ∈ strings, 0 ∈ string := by
  constructor
  · rintro ⟨offset, early, string, late, rfl, -, nul⟩
    exact ⟨string, List.mem_append_right early List.mem_cons_self, nul.mem⟩
  · rintro ⟨string, member, broken⟩
    cases crossed : strings.mapM Terminated.ofBytes with
    | error offset => exact ⟨offset, Terminated.mapM_ofBytes_eq_error_iff.mp crossed⟩
    | ok kept =>
      rw [← Terminated.mapM_ofBytes_of_ok crossed] at member
      obtain ⟨one, -, rfl⟩ := List.mem_map.mp member
      exact absurd broken one.unbroken

theorem Terminated.Spells.unbroken {string : Terminated} {text : String} (spells : string.Spells text) :
    0 ∉ Utf8.encode text := Eq.subst (motive := (0 ∉ ·)) spells string.unbroken

theorem Terminated.Spells.text_unbroken {string : Terminated} {text : String}
    (spells : string.Spells text) : '\x00' ∉ text.toList :=
  fun member => spells.unbroken (List.mem_flatMap.mpr ⟨'\x00', member, by decide⟩)

/-- A step in configuring that could be asked for holds no NUL. -/
theorem Setting.Asks.unbroken {setting : Setting} {request : Request} (asks : setting.Asks request) :
    setting.Unbroken := by
  cases asks with
  | defaultConfig | defaultVariable => exact trivial
  | configFile list => exact list.unbroken
  | environment spells => exact spells.text_unbroken
  | option key value => exact ⟨key.text_unbroken, value.text_unbroken⟩

/-! The strings of an operation. -/

/-- The strings of a step, in the order in which they are looked at. -/
def Setting.strings : Setting → List Bytes
  | defaultConfig => []
  | configFile path => [path]
  | environment name => (name.map Utf8.encode).toList
  | option key value => [Utf8.encode key, Utf8.encode value]

theorem Setting.BrokenAt.firstNul {setting : Setting} {offset : Nat} (broken : setting.BrokenAt offset) :
    FirstNul setting.strings offset := by
  cases broken with
  | configFile nul | environment nul | key nul => exact nul.firstNul
  | value spelled nul => exact firstNul_cons.mpr (.inr ⟨spelled.unbroken, nul.firstNul⟩)

/-- A command either crosses as it is or has a first NUL, of which the target comes first. -/
theorem CommandLine.command_cases (line : CommandLine) :
    (∃ command, line.command = .ok command ∧ line.Reads command) ∨
      ∃ offset, line.command = .error offset ∧
        FirstNul (Utf8.encode line.target :: line.arguments) offset := by
  unfold command
  cases named : Terminated.ofText line.target with
  | error offset => exact .inr ⟨offset, rfl, (Terminated.ofText_eq_error_iff.mp named).firstNul⟩
  | ok target =>
    have spelled : target.Spells line.target := Terminated.ofText_eq_ok_iff.mp named
    cases crossed : line.arguments.mapM Terminated.ofBytes with
    | error offset =>
      have later := Terminated.mapM_ofBytes_eq_error_iff.mp crossed
      exact .inr ⟨offset, rfl, firstNul_cons.mpr (.inr ⟨spelled.unbroken, later⟩)⟩
    | ok words => exact .inl ⟨_, rfl, spelled, Terminated.mapM_ofBytes_of_ok crossed, rfl⟩

namespace Operation

/-- The strings of an operation, in the order in which they are looked at. The input of a command is
not one of them. -/
def strings : Operation → List Bytes
  | configure setting => setting.strings
  | getOption key => [Utf8.encode key]
  | path operation => [Utf8.encode operation.target]
  | command line => Utf8.encode line.target :: line.arguments
  | mount | unmount | isMounted | sync | currentDir => []

/-- The operation is a command without words. -/
def Wordless : Operation → Prop
  | command line => line.arguments = []
  | _ => False

/-- Why an operation cannot cross. That a command has no words is found before anything else. -/
inductive Rejected (operation : Operation) : Error → Prop where
  | wordless : operation.Wordless → Rejected operation .emptyCommand
  | broken {offset : Nat} : ¬operation.Wordless → FirstNul operation.strings offset →
      Rejected operation (.interiorNul offset)

/-- What is asked for crossed, so no string is broken. -/
theorem Asks.unbroken {operation : Operation} {request : Request} (asks : operation.Asks request) :
    ∀ string ∈ operation.strings, 0 ∉ string := by
  cases asks with
  | configure asks =>
    cases asks with
    | defaultConfig | defaultVariable => exact List.forall_mem_nil _
    | configFile list => exact List.forall_mem_singleton.mpr list.unbroken
    | environment spelled => exact List.forall_mem_singleton.mpr spelled.unbroken
    | option key value =>
      exact List.forall_mem_cons.mpr ⟨key.unbroken, List.forall_mem_singleton.mpr value.unbroken⟩
  | mount | unmount | sync => exact List.forall_mem_nil _
  | path asks =>
    obtain ⟨path, spelled, -⟩ := asks
    exact List.forall_mem_singleton.mpr spelled.unbroken

end Operation

/-! Programs by their first call. -/

namespace Program

/-- Before it reports anything the program makes the call. All its other calls are of one kind, and
its result is as `post` says of the answer to the first. -/
def OpensWith (call : Call) (allowed : Call → Prop) (post : call.Reply → α → Prop)
    (program : Program α) : Prop :=
  ∃ next, program = .call call next ∧ ∀ reply, (next reply).Within allowed (post reply)

variable {call : Call} {allowed : Call → Prop}

theorem OpensWith.bind {program : Program α} {next : α → Program β} {between : call.Reply → α → Prop}
    {post : call.Reply → β → Prop} (opens : program.OpensWith call allowed between)
    (rest : ∀ reply result, between reply result → (next result).Within allowed (post reply)) :
    (program.bind next).OpensWith call allowed post := by
  obtain ⟨first, rfl, within⟩ := opens
  exact ⟨fun reply => (first reply).bind next, rfl, fun reply =>
    (within_bind ..).mpr ((within reply).mono (rest reply))⟩

theorem OpensWith.within {program : Program α} {post : call.Reply → α → Prop} {out : α → Prop}
    (opens : program.OpensWith call allowed post) (permitted : allowed call)
    (implies : ∀ reply result, post reply result → out result) : program.Within allowed out := by
  obtain ⟨next, rfl, within⟩ := opens
  exact ⟨permitted, fun reply => (within reply).mono (implies reply)⟩

/-- A program that calls nothing gives its result whatever the boundary is, and leaves its state. -/
theorem Within.run_silent {program : Program α} {post : α → Prop}
    (within : program.Within (fun _ => False) post) (boundary : Boundary σ) (state : σ) :
    ∃ result entries, program.run boundary state = ⟨.ok result, entries, state⟩ ∧ post result ∧
      Trace.calls entries = [] := by
  induction program with
  | done result => exact ⟨result, [], rfl, within, rfl⟩
  | log event next ih =>
    obtain ⟨result, entries, ran, holds, silent⟩ := ih within
    exact ⟨result, .reported event :: entries, by rw [Program.run, ran], holds, silent⟩
  | call request next ih => exact absurd within.1 id

/-- A program of one call that was not cut short was answered, and the answer decides its result. -/
theorem OpensWith.run_once {program : Program α} {post : call.Reply → α → Prop}
    {boundary : Boundary σ} {state after : σ} {result : α} {entries : List Entry}
    (opens : program.OpensWith call (fun _ => False) post)
    (ran : program.run boundary state = ⟨.ok result, entries, after⟩) :
    ∃ reply, boundary call state = (.ok reply, after) ∧ post reply result ∧
      Trace.calls entries = [.called call reply] := by
  obtain ⟨next, rfl, within⟩ := opens
  rw [run] at ran
  split at ran
  · cases ran
  next reply between answered =>
    obtain ⟨given, rest, silent, holds, reported⟩ := (within reply).run_silent boundary between
    rw [silent] at ran
    cases ran
    exact ⟨reply, answered, holds, by rw [Trace.calls_called, reported]⟩

/-- One whose call is answered is not cut short. -/
theorem OpensWith.run_answered {program : Program α} {post : call.Reply → α → Prop}
    {boundary : Boundary σ} {state after : σ} {reply : call.Reply}
    (opens : program.OpensWith call (fun _ => False) post)
    (answered : boundary call state = (.ok reply, after)) :
    ∃ result entries, program.run boundary state = ⟨.ok result, entries, after⟩ ∧ post reply result := by
  obtain ⟨next, rfl, within⟩ := opens
  obtain ⟨result, entries, ran, holds, -⟩ := (within reply).run_silent boundary after
  refine ⟨result, .called call reply :: entries, ?_, holds⟩
  rw [run, answered]
  simp only [ran]

/-- One that was cut short was refused its only call, and reported nothing. -/
theorem OpensWith.run_refused {program : Program α} {post : call.Reply → α → Prop}
    {boundary : Boundary σ} {state after : σ} {misuse : Misuse} {entries : List Entry}
    (opens : program.OpensWith call (fun _ => False) post)
    (ran : program.run boundary state = ⟨.error misuse, entries, after⟩) :
    boundary call state = (.error misuse, after) ∧ entries = [] := by
  obtain ⟨next, rfl, within⟩ := opens
  rw [run] at ran
  split at ran
  next refusal between refused =>
    cases ran
    exact ⟨refused, rfl⟩
  next reply between answered =>
    obtain ⟨given, rest, silent, -, -⟩ := (within reply).run_silent boundary between
    rw [silent] at ran
    cases ran

end Program

/-! Courses. -/

namespace Mount

/-- What an operation that is one request gives for its code, with the mount after it. -/
def concluded (mount : Mount) (operation : Operation) (code : Int32) : Outcome Answer × Mount :=
  if code = 0 then (.ok .nothing, { mount with state := operation.advance mount.state })
  else (.error (.library ⟨code⟩), mount)

/-- The program is the request and what its code decides, and nothing else is called. -/
def Concludes (mount : Mount) (operation : Operation) (request : Request) : Prop :=
  (mount.perform operation).OpensWith (.request mount.handle request) (fun _ => False)
    fun code result => result = mount.concluded operation code

theorem checked_opensWith (mount : Mount) (request : Request) :
    (mount.checked request).OpensWith (.request mount.handle request) (fun _ => False)
      fun code outcome => outcome = outcomeOf code := by
  refine ⟨checkedCode request.name, rfl, fun code => ?_⟩
  by_cases granted : code = 0
  · subst granted
    rfl
  · rw [checkedCode_of_ne _ granted]
    exact (if_neg granted).symm

/-- A request after which the mount moves on, if it was granted. -/
theorem advance_opensWith (mount : Mount) (request : Request) (after : MountState) :
    (mount.advance request after).OpensWith (.request mount.handle request) (fun _ => False)
      fun code result => result =
        if code = 0 then (.ok (), { mount with state := after }) else (.error (.library ⟨code⟩), mount) := by
  refine (mount.checked_opensWith request).bind fun code outcome checked => ?_
  subst checked
  by_cases granted : code = 0
  · simp only [outcomeOf, granted, if_true]
    exact rfl
  · simp only [outcomeOf, granted, if_false]
    exact rfl

theorem configure_opensWith (mount : Mount) {setting : Setting} {request : Request}
    (crossed : setting.request = .ok request) :
    (mount.configure setting).OpensWith (.request mount.handle request) (fun _ => False)
      fun code result => result =
        if code = 0 then (.ok (), { mount with state := mount.state.afterConfigure })
        else (.error (.library ⟨code⟩), mount) := by
  rw [configure, crossed]
  refine (mount.checked_opensWith request).bind fun code outcome checked => ?_
  subst checked
  by_cases granted : code = 0
  · simp only [outcomeOf, granted, if_true]
    obtain ⟨handle, state⟩ := mount
    cases state <;> exact rfl
  · simp only [outcomeOf, granted, if_false]
    exact rfl

/-- An operation that passes on what came of one request, with the mount that the request left. -/
theorem concludes_of_opensWith {mount : Mount} {operation : Operation} {request : Request}
    {program : Program (Outcome Unit × Mount)}
    (is : mount.perform operation = program.bind fun result =>
      .done (result.1.map fun () => .nothing, result.2))
    (opens : program.OpensWith (.request mount.handle request) (fun _ => False) fun code result =>
      result = if code = 0 then (.ok (), { mount with state := operation.advance mount.state })
        else (.error (.library ⟨code⟩), mount)) :
    mount.Concludes operation request := by
  rw [Concludes, is]
  refine opens.bind fun code result concluded => ?_
  subst concluded
  rw [Mount.concluded]
  split <;> exact rfl

/-- An operation that passes on what came of a checked request, and leaves the mount. -/
theorem concludes_of_checked {mount : Mount} {operation : Operation} {request : Request}
    (is : mount.perform operation = (mount.checked request).bind fun outcome =>
      .done (outcome.map fun () => .nothing, mount))
    (stays : operation.advance mount.state = mount.state) : mount.Concludes operation request := by
  rw [Concludes, is]
  refine (mount.checked_opensWith request).bind fun code outcome checked => ?_
  subst checked
  rw [Mount.concluded, stays, outcomeOf]
  split <;> exact rfl

/-- Each buffer is offered for the same option, and nothing else is called. A failure is that of a code. -/
theorem readOption_opensWith {allowed : Call → Prop} (mount : Mount) (key : Terminated)
    (growths size : Nat) (permitted : ∀ buffer, allowed (.readOption mount.handle key buffer)) :
    (mount.readOption key growths size).OpensWith
      (.readOption mount.handle key (List.replicate size 0)) allowed
      fun _ outcome => ∀ error, outcome = .error error →
        ∃ code, code ≠ 0 ∧ error = .library ⟨code⟩ := by
  have finished (answer : OptionAnswer) :
      (readOption.finish answer).Within allowed
        fun outcome => ∀ error, outcome = .error error →
          ∃ code, code ≠ 0 ∧ error = .library ⟨code⟩ := by
    by_cases granted : answer.code = 0
    · rw [readOption.finish, granted, checkedCode_zero]
      exact nofun
    · rw [readOption.finish, checkedCode_of_ne _ granted]
      intro error failed
      cases failed
      exact ⟨_, granted, rfl⟩
  induction growths generalizing size with
  | zero =>
    unfold readOption
    exact ⟨_, rfl, finished⟩
  | succ growths ih =>
    unfold readOption
    refine ⟨_, rfl, fun answer => ?_⟩
    change (if answer.code = _ then _ else _ : Program _).Within _ _
    split
    · obtain ⟨next, is, within⟩ := ih (2 * size)
      rw [is]
      exact ⟨permitted _, within⟩
    · exact finished answer

/-- All the courses that an operation can take. -/
inductive Course (mount : Mount) : Operation → Prop where
  | rejected {operation : Operation} {error : Error} : operation.Rejected error →
      mount.perform operation = .done (.error error, mount) → Course mount operation
  | concludes {operation : Operation} {request : Request} : operation.Asks request →
      mount.Concludes operation request → Course mount operation
  | reads {key : String} {name : Terminated} : name.Spells key →
      mount.getOption key = mount.readOption name bufferGrowths firstBuffer →
      Course mount (.getOption key)
  | sends {line : CommandLine} {command : Command} : line.arguments ≠ [] → line.Reads command →
      mount.command line = (mount.send line.target command).bind (fun reply => .done (.ok reply)) →
      Course mount (.command line)
  | isMounted : Course mount .isMounted
  | currentDir : Course mount .currentDir

theorem course (mount : Mount) (operation : Operation) : mount.Course operation := by
  cases operation with
  | configure setting =>
    rcases setting.request_cases with ⟨request, crossed, asks⟩ | ⟨offset, crossed, broken⟩
    · exact .concludes (.configure asks)
        (concludes_of_opensWith rfl (mount.configure_opensWith crossed))
    · refine .rejected (.broken id broken.firstNul) ?_
      rw [perform, configure, crossed]
      rfl
  | mount =>
    exact .concludes .mount (concludes_of_opensWith rfl (mount.advance_opensWith (.mount none) .mounted))
  | unmount =>
    exact .concludes .unmount (concludes_of_opensWith rfl (mount.advance_opensWith .unmount .unmounted))
  | sync => exact .concludes .sync (concludes_of_checked rfl rfl)
  | path operation =>
    rcases operation.request_cases with ⟨request, crossed, asks⟩ | ⟨offset, crossed, nul⟩
    · refine .concludes (.path asks) (concludes_of_checked ?_ rfl)
      rw [perform, atPath, crossed]
      rfl
    · refine .rejected (.broken id nul.firstNul) ?_
      rw [perform, atPath, crossed]
      rfl
  | getOption key =>
    cases crossed : Terminated.ofText key with
    | ok name => exact .reads (Terminated.ofText_eq_ok_iff.mp crossed) (by rw [getOption, crossed])
    | error offset =>
      refine .rejected (.broken id (Terminated.ofText_eq_error_iff.mp crossed).firstNul) ?_
      rw [perform, getOption, crossed]
      rfl
  | isMounted => exact .isMounted
  | currentDir => exact .currentDir
  | command line =>
    by_cases none : line.arguments = []
    · refine .rejected (.wordless none) ?_
      rw [perform, command, if_pos (by simpa using none)]
      rfl
    rcases line.command_cases with ⟨command, crossed, reads⟩ | ⟨offset, crossed, nul⟩
    · exact .sends none reads (mount.command_eq none crossed)
    · refine .rejected (.broken none nul) ?_
      rw [perform, Mount.command, if_neg (by simpa using none), crossed]
      rfl

end Mount

end CephMount

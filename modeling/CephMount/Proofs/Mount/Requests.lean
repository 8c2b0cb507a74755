import CephMount.Mount.Creation
import CephMount.Proofs.ErrorCode
import CephMount.Proofs.Mount.Command
import CephMount.Proofs.Mount.Ending

/-! The requests that a caller's operations come to, over a boundary that may answer anything.

A string crosses byte for byte, or its first NUL keeps the operation from making any call. What crosses
is one request, and its code alone decides: zero is success, and any other code is the error.
-/

set_option autoImplicit false

namespace CephMount

variable {σ : Type}

/-! Strings on their way across. -/

/-- The first NUL of the bytes stands at this offset. -/
def NulAt (bytes : Bytes) (offset : Nat) : Prop :=
  ∃ before after, bytes = before ++ 0 :: after ∧ 0 ∉ before ∧ before.length = offset

/-- The string is the text, byte for byte. -/
def Terminated.Spells (string : Terminated) (text : String) : Prop := string.bytes = Utf8.encode text

namespace Terminated

theorem ofBytes_eq_error_iff_nulAt {bytes : Bytes} {offset : Nat} :
    ofBytes bytes = .error offset ↔ NulAt bytes offset := by
  rw [ofBytes_eq_error_iff]
  constructor
  · rintro ⟨member, rfl⟩
    obtain ⟨before, after, rfl, first⟩ := List.eq_append_cons_of_mem member
    refine ⟨before, after, rfl, first, ?_⟩
    rw [List.idxOf_append, if_neg first, List.idxOf_cons_self, Nat.zero_add]
  · rintro ⟨before, after, rfl, first, rfl⟩
    refine ⟨by simp, ?_⟩
    rw [List.idxOf_append, if_neg first, List.idxOf_cons_self, Nat.zero_add]

theorem ofText_eq_ok_iff {text : String} {string : Terminated} :
    ofText text = .ok string ↔ string.Spells text := ofBytes_eq_ok_iff

theorem ofText_eq_error_iff {text : String} {offset : Nat} :
    ofText text = .error offset ↔ NulAt (Utf8.encode text) offset := ofBytes_eq_error_iff_nulAt

/-- What is the text byte for byte is read as the text. -/
theorem Spells.text_eq {string : Terminated} {text : String} (spells : string.Spells text) :
    string.text = text :=
  text_of_ofText (ofText_eq_ok_iff.mpr spells)

end Terminated

/-! Requests, told from the operations. -/

/-- The request for a step in configuring a handle. -/
inductive Setting.Asks : Setting → Request → Prop where
  | defaultConfig : Asks .defaultConfig (.readConfig none)
  | configFile (list : Terminated) : Asks (.configFile list.bytes) (.readConfig (some list))
  | defaultVariable : Asks (.environment none) (.parseEnv none)
  | environment {name : String} {string : Terminated} : string.Spells name →
      Asks (.environment (some name)) (.parseEnv (some string))
  | option {key value : String} {name text : Terminated} : name.Spells key → text.Spells value →
      Asks (.option key value) (.setOption name text)

/-- The step cannot cross: this is where the first NUL of its first broken string stands. The name of
an option is looked at before its value. -/
inductive Setting.BrokenAt : Setting → Nat → Prop where
  | configFile {path : Bytes} {offset : Nat} : NulAt path offset → BrokenAt (.configFile path) offset
  | environment {name : String} {offset : Nat} : NulAt (Utf8.encode name) offset →
      BrokenAt (.environment (some name)) offset
  | key {key value : String} {offset : Nat} : NulAt (Utf8.encode key) offset →
      BrokenAt (.option key value) offset
  | value {key value : String} {name : Terminated} {offset : Nat} : name.Spells key →
      NulAt (Utf8.encode value) offset → BrokenAt (.option key value) offset

/-- Every step either crosses or is broken. -/
theorem Setting.request_cases (setting : Setting) :
    (∃ request, setting.request = .ok request ∧ setting.Asks request) ∨
      ∃ offset, setting.request = .error offset ∧ setting.BrokenAt offset := by
  cases setting with
  | defaultConfig => exact .inl ⟨_, rfl, .defaultConfig⟩
  | configFile path =>
    simp only [Setting.request]
    cases crossed : Terminated.ofBytes path with
    | ok list =>
      obtain rfl := Terminated.ofBytes_eq_ok_iff.mp crossed
      exact .inl ⟨_, rfl, .configFile list⟩
    | error offset =>
      exact .inr ⟨_, rfl, .configFile (Terminated.ofBytes_eq_error_iff_nulAt.mp crossed)⟩
  | environment name =>
    cases name with
    | none => exact .inl ⟨_, rfl, .defaultVariable⟩
    | some name =>
      simp only [Setting.request, Terminated.ofOptionalText]
      cases crossed : Terminated.ofText name with
      | ok string => exact .inl ⟨_, rfl, .environment (Terminated.ofText_eq_ok_iff.mp crossed)⟩
      | error offset => exact .inr ⟨_, rfl, .environment (Terminated.ofText_eq_error_iff.mp crossed)⟩
  | option key value =>
    simp only [Setting.request]
    cases named : Terminated.ofText key with
    | error offset => exact .inr ⟨_, rfl, .key (Terminated.ofText_eq_error_iff.mp named)⟩
    | ok name =>
      have spelled := Terminated.ofText_eq_ok_iff.mp named
      cases crossed : Terminated.ofText value with
      | ok text => exact .inl ⟨_, rfl, .option spelled (Terminated.ofText_eq_ok_iff.mp crossed)⟩
      | error offset => exact .inr ⟨_, rfl, .value spelled (Terminated.ofText_eq_error_iff.mp crossed)⟩

/-- No string of the step holds a NUL. -/
def Setting.Unbroken : Setting → Prop
  | defaultConfig | environment none => True
  | configFile path => 0 ∉ path
  | environment (some name) => '\x00' ∉ name.toList
  | option key value => '\x00' ∉ key.toList ∧ '\x00' ∉ value.toList

theorem NulAt.mem {bytes : Bytes} {offset : Nat} (broken : NulAt bytes offset) : 0 ∈ bytes := by
  obtain ⟨before, after, rfl, -, -⟩ := broken
  exact List.mem_append_right before List.mem_cons_self

theorem NulAt.mem_text {text : String} {offset : Nat} (broken : NulAt (Utf8.encode text) offset) :
    '\x00' ∈ text.toList := by
  obtain ⟨value, member, zero⟩ := List.mem_flatMap.mp broken.mem
  exact Utf8.zero_mem_encodeChar zero ▸ member

theorem Setting.BrokenAt.not_unbroken {setting : Setting} {offset : Nat}
    (broken : setting.BrokenAt offset) : ¬setting.Unbroken := by
  cases broken with
  | configFile nul => exact fun unbroken => unbroken nul.mem
  | environment nul => exact fun unbroken => unbroken nul.mem_text
  | key nul => exact fun unbroken => unbroken.1 nul.mem_text
  | value _ nul => exact fun unbroken => unbroken.2 nul.mem_text

namespace PathOperation

def target : PathOperation → String
  | enter path | make path _ | remove path | setMode path _ | setOwner path _ _ => path

/-- The request for an operation, given its path as it crosses. -/
def requestOn (path : Terminated) : PathOperation → Request
  | enter _ => .chdir path
  | make _ mode => .mkdir path mode
  | remove _ => .rmdir path
  | setMode _ mode => .chmod path mode
  | setOwner _ uid gid => .chown path uid.toInt32 gid.toInt32

def Asks (operation : PathOperation) (request : Request) : Prop :=
  ∃ path : Terminated, path.Spells operation.target ∧ request = operation.requestOn path

theorem request_eq (operation : PathOperation) :
    operation.request = (Terminated.ofText operation.target).map (requestOn · operation) := by
  cases operation <;>
    (simp only [request, target]; cases Terminated.ofText _ <;> rfl)

theorem request_cases (operation : PathOperation) :
    (∃ request, operation.request = .ok request ∧ operation.Asks request) ∨
      ∃ offset, operation.request = .error offset ∧ NulAt (Utf8.encode operation.target) offset := by
  rw [request_eq]
  cases crossed : Terminated.ofText operation.target with
  | ok path => exact .inl ⟨_, rfl, path, Terminated.ofText_eq_ok_iff.mp crossed, rfl⟩
  | error offset => exact .inr ⟨offset, rfl, Terminated.ofText_eq_error_iff.mp crossed⟩

end PathOperation

/-! What a request gives. -/

/-- Zero is success, and any other code is the error. -/
def outcomeOf (code : Int32) : Outcome Unit :=
  if code = 0 then .ok () else .error (.library ⟨code⟩)

theorem checkedCode_meets {discipline : Discipline σ} (call : String) (code : Int32) (state : σ) :
    (checkedCode call code).Meets discipline state fun entries outcome after =>
      Trace.calls entries = [] ∧ outcome = outcomeOf code ∧ after = state := by
  by_cases granted : code = 0
  · subst granted
    exact ⟨rfl, rfl, rfl⟩
  · rw [checkedCode_of_ne call granted]
    exact ⟨rfl, (if_neg granted).symm, rfl⟩

namespace Mount

variable (answers : Answers σ)

theorem checked_meets (mount : Mount) (request : Request) (state : σ) :
    (mount.checked request).Meets (.answering answers) state fun entries outcome _ =>
      ∃ code, Trace.calls entries = [mount.asked request code] ∧ outcome = outcomeOf code := by
  apply (Program.meets_call_answering ..).mpr
  apply (checkedCode_meets _ _ _).mono
  intro entries outcome _ checked
  obtain ⟨silent, rfl, -⟩ := checked
  exact ⟨_, congrArg (List.cons _) silent, rfl⟩

/-- All that a step in configuring a mount can come to: what it calls, and what it gives with the
mount after it. -/
inductive Configures (mount : Mount) (setting : Setting) :
    List Entry → Outcome Unit × Mount → Prop where
  | granted {request : Request} : setting.Asks request →
      Configures mount setting [mount.asked request 0]
        (.ok (), { mount with state := mount.state.afterConfigure })
  | refused {request : Request} {code : Int32} : setting.Asks request → code ≠ 0 →
      Configures mount setting [mount.asked request code] (.error (.library ⟨code⟩), mount)
  | broken {offset : Nat} : setting.BrokenAt offset →
      Configures mount setting [] (.error (.interiorNul offset), mount)

theorem markConfigured_meets {discipline : Discipline σ} (mount : Mount) (state : σ) :
    mount.markConfigured.Meets discipline state fun entries after _ =>
      Trace.calls entries = [] ∧ after = { mount with state := mount.state.afterConfigure } := by
  obtain ⟨handle, tracked⟩ := mount
  cases tracked <;> exact ⟨rfl, rfl⟩

theorem configure_meets (mount : Mount) (setting : Setting) (state : σ) :
    (mount.configure setting).Meets (.answering answers) state fun entries result _ =>
      mount.Configures setting (Trace.calls entries) result := by
  unfold configure
  rcases setting.request_cases with ⟨request, crossed, asks⟩ | ⟨offset, crossed, broken⟩
  · simp only [crossed, Program.bind_eq_bind, Program.meets_bind]
    apply (mount.checked_meets answers request state).mono
    intro entries outcome between checked
    obtain ⟨code, calls, rfl⟩ := checked
    unfold outcomeOf
    by_cases granted : code = 0
    · subst granted
      simp only [if_true, Program.meets_bind]
      apply (mount.markConfigured_meets between).mono
      intro more after _ marked
      obtain ⟨silent, rfl⟩ := marked
      simpa [calls, silent] using Configures.granted asks
    · simp only [granted, if_false]
      simpa [calls] using Configures.refused asks granted
  · simp only [crossed]
    exact .broken broken

/-! Creations, which ask for a handle. -/

/-- What the answer to a creation comes to. A refusal whose code says success is an input/output
error. -/
def allocation : Except Int32 Handle → Outcome Mount
  | .ok handle => .ok ⟨handle, .allocated⟩
  | .error code => .error (.library ⟨if code = 0 then Errno.inputOutput.code else code⟩)

theorem allocated_meets {discipline : Discipline σ} (call : String) (success : Handle → Event)
    (answer : Except Int32 Handle) (state : σ) :
    (allocated call success answer).Meets discipline state fun entries outcome _ =>
      Trace.calls entries = [] ∧ outcome = allocation answer := by
  cases answer with
  | ok handle => exact ⟨rfl, rfl⟩
  | error code =>
    rw [allocation, ← ErrorCode.getD_ofCode?]
    exact ⟨rfl, rfl⟩

theorem create_meets (id : Option String) (state : σ) :
    (create id).Meets (.answering answers) state fun entries outcome _ =>
      (∃ name answer, Option.Rel (fun text string => string.Spells text) id name ∧
        Trace.calls entries = [.called (.create name) answer] ∧ outcome = allocation answer) ∨
      ∃ text offset, id = some text ∧ NulAt (Utf8.encode text) offset ∧
        Trace.calls entries = [] ∧ outcome = .error (.interiorNul offset) := by
  have asked (name : Option Terminated)
      (named : Option.Rel (fun text string => Terminated.Spells string text) id name) :
      (Program.call (.create name) (allocated "create" (.allocated id))).Meets (.answering answers) state
        fun entries outcome _ => ∃ name answer,
          Option.Rel (fun text string => Terminated.Spells string text) id name ∧
          Trace.calls entries = [.called (.create name) answer] ∧ outcome = allocation answer := by
    refine (Program.meets_call_answering ..).mpr ((allocated_meets _ _ _ _).mono ?_)
    intro entries outcome _ made
    exact ⟨name, _, named, congrArg (List.cons _) made.1, made.2⟩
  unfold create
  cases id with
  | none => exact (asked none .none).mono fun _ _ _ => .inl
  | some text =>
    simp only [Terminated.ofOptionalText]
    cases crossed : Terminated.ofText text with
    | ok name =>
      exact (asked (some name) (.some (Terminated.ofText_eq_ok_iff.mp crossed))).mono fun _ _ _ => .inl
    | error offset =>
      exact .inr ⟨text, offset, rfl, Terminated.ofText_eq_error_iff.mp crossed, rfl, rfl⟩

theorem fromCluster_meets (cluster : Nat) (state : σ) :
    (fromCluster cluster).Meets (.answering answers) state fun entries outcome _ =>
      ∃ answer, Trace.calls entries = [.called (.createFromCluster cluster) answer] ∧
        outcome = allocation answer := by
  refine (Program.meets_call_answering ..).mpr ((allocated_meets _ _ _ _).mono ?_)
  intro entries outcome _ made
  exact ⟨_, congrArg (List.cons _) made.1, made.2⟩

end Mount

end CephMount

import CephMount.Program

/-! What can be read off the entries of a run about one handle: the calls alone, the handles that
creations gave out, and the answers to releases.
-/

set_option autoImplicit false

namespace CephMount

def Entry.handle? : Entry → Option Handle
  | called call _ => call.handle?
  | reported _ => none

def Entry.made? : Entry → Option Handle
  | called (.create _) (.ok handle) | called (.createFromCluster _) (.ok handle) => some handle
  | _ => none

theorem Entry.made?_create (id : Option Terminated) (reply : Except Int32 Handle) :
    (called (.create id) reply).made? = reply.toOption := by
  cases reply <;> rfl

theorem Entry.made?_createFromCluster (cluster : Nat) (reply : Except Int32 Handle) :
    (called (.createFromCluster cluster) reply).made? = reply.toOption := by
  cases reply <;> rfl

def Call.creates : Call → Bool
  | create _ | createFromCluster _ => true
  | _ => false

theorem Entry.made?_of_creates {call : Call} (none : call.creates = false) (reply : call.Reply) :
    (called call reply).made? = .none := by
  cases call with
  | create id | createFromCluster cluster => cases none
  | _ => rfl

def Entry.releaseCode? (handle : Handle) : Entry → Option Int32
  | called (.request holder .release) code => if holder = handle then some code else none
  | _ => none

def Entry.isCall : Entry → Bool
  | called _ _ => true
  | reported _ => false

theorem Entry.releaseCode?_of_handle? {entry : Entry} {handle : Handle}
    (free : entry.handle? = none) : entry.releaseCode? handle = none := by
  cases entry with
  | reported event => rfl
  | called call reply =>
    cases call with
    | request holder request => cases free
    | _ => rfl

namespace Trace

def calls (entries : List Entry) : List Entry := entries.filter Entry.isCall

def made (entries : List Entry) : List Handle := entries.filterMap Entry.made?

def releases (handle : Handle) (entries : List Entry) : List Int32 :=
  entries.filterMap (Entry.releaseCode? handle)

@[simp] theorem calls_nil : calls [] = [] := rfl

@[simp] theorem calls_called (call : Call) (reply : call.Reply) (entries : List Entry) :
    calls (.called call reply :: entries) = .called call reply :: calls entries := rfl

@[simp] theorem calls_reported (event : Event) (entries : List Entry) :
    calls (.reported event :: entries) = calls entries := rfl

@[simp] theorem calls_append (first rest : List Entry) :
    calls (first ++ rest) = calls first ++ calls rest := List.filter_append ..

theorem made_cons (entry : Entry) (rest : List Entry) :
    made (entry :: rest) = entry.made?.toList ++ made rest := by
  cases given : entry.made? <;> simp [made, given]

@[simp] theorem made_append (first rest : List Entry) :
    made (first ++ rest) = made first ++ made rest := List.filterMap_append ..

@[simp] theorem releases_append (handle : Handle) (first rest : List Entry) :
    releases handle (first ++ rest) = releases handle first ++ releases handle rest :=
  List.filterMap_append ..

theorem mem_calls {entries : List Entry} {entry : Entry} :
    entry ∈ calls entries ↔ entry ∈ entries ∧ entry.isCall = true := List.mem_filter

theorem releases_calls (handle : Handle) (entries : List Entry) :
    releases handle (calls entries) = releases handle entries := by
  induction entries with
  | nil => rfl
  | cons entry rest ih =>
    cases entry with
    | called call reply =>
      simp only [releases] at ih
      simp only [calls_called, releases, List.filterMap_cons, ih]
    | reported event =>
      simp only [calls_reported, ih]
      rfl

theorem made_calls (entries : List Entry) : made (calls entries) = made entries := by
  induction entries with
  | nil => rfl
  | cons entry rest ih =>
    cases entry with
    | called call reply =>
      simp only [made] at ih
      simp only [calls_called, made, List.filterMap_cons, ih]
    | reported event =>
      simp only [calls_reported, ih]
      rfl

theorem isCall_of_handle? {entry : Entry} {handle : Handle} (onHandle : entry.handle? = some handle) :
    entry.isCall = true := by
  cases entry with
  | called call reply => rfl
  | reported event => cases onHandle

/-- The account of a handle that has been given up: released once or twice, at most once with
success, and never called again after that. -/
structure Settled (handle : Handle) (entries : List Entry) : Prop where
  atLeastOnce : 1 ≤ (releases handle entries).length
  atMostTwice : (releases handle entries).length ≤ 2
  grantedOnce : (releases handle entries).count 0 ≤ 1
  silentAfter : ∀ before after, entries = before ++ .called (.request handle .release) (0 : Int32) :: after →
    ∀ entry ∈ after, entry.handle? ≠ some handle

/-- A trace is settled when its last call is a release, and before it stands no granted release and
at most one refused one. -/
theorem settled_of_calls {handle : Handle} {entries early : List Entry} {code : Int32}
    (shape : calls entries = early ++ [.called (.request handle .release) code])
    (once : (releases handle early).length ≤ 1) (refused : 0 ∉ releases handle early) :
    Settled handle entries := by
  have codes : releases handle entries = releases handle early ++ [code] := by
    rw [← releases_calls, shape, releases_append]
    simp [releases, Entry.releaseCode?]
  refine ⟨?_, ?_, ?_, ?_⟩
  · simp [codes]
  · simpa [codes] using once
  · rw [codes, List.count_append, List.count_eq_zero_of_not_mem refused, Nat.zero_add]
    exact List.count_le_length
  · intro before after split entry member onHandle
    -- A call on the handle behind a granted release would put that release among the early calls.
    have later : entry ∈ calls after := mem_calls.mpr ⟨member, isCall_of_handle? onHandle⟩
    rw [split, calls_append, calls_called] at shape
    rcases List.eq_nil_or_concat (calls after) with none | ⟨rest, last, some⟩
    · rw [none] at later
      cases later
    · rw [some, List.concat_eq_append, ← List.cons_append, ← List.append_assoc] at shape
      have granted := (List.append_inj' shape rfl).1
      apply refused
      rw [← granted, releases_append]
      simp [releases, Entry.releaseCode?]

end Trace

end CephMount

import CephMount.InMemory.Library

/-! The in-memory library with answers arranged in front of it.

An arranged answer takes the place of the library's own, once, and in the order in which they were
arranged. So a boundary can be made that says what the library itself never would.
-/

set_option autoImplicit false

namespace CephMount.InMemory

/-- An answer to a look-up of an option: a code that leaves the buffer alone, or a value. No bytes
mean a value that fits no buffer. -/
inductive ArrangedOption where
  | code (code : Int32)
  | value (bytes : Option Bytes)
  deriving DecidableEq, Repr

/-- A buffer to hand out, with the length to say of it. No bytes mean a null pointer. -/
structure ArrangedBuffer where
  bytes : Option Bytes
  length : Nat
  deriving DecidableEq, Repr

structure ArrangedReply where
  code : Int32
  output : ArrangedBuffer
  status : ArrangedBuffer
  deriving DecidableEq, Repr

inductive Arrangement where
  | currentDir (path : Option Terminated)
  | mountedFlag (code : Int32)
  | option (answer : ArrangedOption)
  | command (reply : ArrangedReply)
  deriving DecidableEq, Repr

/-- The library, the answers that wait before it, and the buffers made for them. -/
structure Arranged where
  library : Library := {}
  currentDirs : List (Option Terminated) := []
  mountedFlags : List Int32 := []
  options : List ArrangedOption := []
  replies : List ArrangedReply := []
  version : Option VersionAnswer := none
  liveBuffers : List Nat := []
  freedBuffers : Nat := 0
  deriving DecidableEq, Repr

namespace Arranged

/-- Arrange one answer behind those that wait already. -/
def add (state : Arranged) : Arrangement → Arranged
  | .currentDir path => { state with currentDirs := state.currentDirs ++ [path] }
  | .mountedFlag code => { state with mountedFlags := state.mountedFlags ++ [code] }
  | .option answer => { state with options := state.options ++ [answer] }
  | .command reply => { state with replies := state.replies ++ [reply] }

/-- Arrange the same answer so many times. -/
def addCopies (state : Arranged) (arrangement : Arrangement) : (times : Nat) → Arranged
  | 0 => state
  | times + 1 => (state.add arrangement).addCopies arrangement times

/-- Let the library answer. -/
def pass (state : Arranged) (call : Call) : Except Misuse call.Reply × Arranged :=
  let (reply, library) := Library.answer call state.library
  (reply, { state with library })

def answerOption (buffer : Bytes) : ArrangedOption → OptionAnswer
  | .code code => ⟨code, buffer⟩
  | .value (some bytes) => storeOption bytes buffer
  | .value none => ⟨Errno.nameTooLong.code, buffer⟩

def allocate (state : Arranged) (arranged : ArrangedBuffer) : Returned × Arranged :=
  match arranged.bytes with
  | none => (⟨none, arranged.length⟩, state)
  | some bytes =>
    let number := state.freedBuffers + state.liveBuffers.length
    (⟨some ⟨.arranged number, bytes⟩, arranged.length⟩,
      { state with liveBuffers := number :: state.liveBuffers })

def free (state : Arranged) (number : Nat) : Except Misuse Unit × Arranged :=
  if number ∈ state.liveBuffers then
    (.ok (), { state with
      liveBuffers := state.liveBuffers.erase number
      freedBuffers := state.freedBuffers + 1 })
  else (.error .unknownBuffer, state)

/-- Free a buffer of the library that nobody will see. -/
def discard (state : Arranged) (returned : Returned) : Arranged :=
  match returned.buffer with
  | none => state
  | some buffer => { state with library := (state.library.free buffer.id).2 }

/-- The library still receives the command; its own reply is thrown away. -/
def replace (state : Arranged) (handle : Handle) (command : Command) (reply : ArrangedReply) :
    Except Misuse CommandAnswer × Arranged :=
  match state.pass (.command handle command) with
  | (.error misuse, state) => (.error misuse, state)
  | (.ok own, state) =>
    -- Nobody sees the library's own buffers, so nobody else could free them.
    let state := (state.discard own.output).discard own.status
    let (output, state) := state.allocate reply.output
    let (status, state) := state.allocate reply.status
    (.ok ⟨reply.code, output, status⟩, state)

def answer : Boundary Arranged
  | .currentDir handle, state =>
    match state.currentDirs with
    | path :: rest => (.ok path, { state with currentDirs := rest })
    | [] => state.pass (.currentDir handle)
  | .request handle .isMounted, state =>
    match state.mountedFlags with
    | code :: rest => (.ok code, { state with mountedFlags := rest })
    | [] => state.pass (.request handle .isMounted)
  | .readOption handle key buffer, state =>
    match state.options with
    | option :: rest => (.ok (answerOption buffer option), { state with options := rest })
    | [] => state.pass (.readOption handle key buffer)
  | .command handle command, state =>
    match state.replies with
    | reply :: rest => { state with replies := rest }.replace handle command reply
    | [] => state.pass (.command handle command)
  | .freeBuffer _ (.arranged number), state => state.free number
  | .version, state =>
    match state.version with
    | some version => (.ok version, state)
    | none => state.pass .version
  | call, state => state.pass call

end Arranged

end CephMount.InMemory

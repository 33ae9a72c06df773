import MeshTrace.Proofs.Connection.Ends
import MeshTrace.Proofs.Maps.Table
import MeshTrace.Proofs.Program.Run

/-!
# Which sockets are registered

Every event that ends a handshake offers its socket for registration under the key of its
connection.  A key that is there already keeps its socket, a full table takes no new key, and
no program takes one away.  So the table holds the first keys that were offered, as many as
there is room for, and each with the socket that it was first offered with (`HoldsFirst`):

* `HoldsFirst.offer` — one more offer, whether its key is there, is new, or finds no room;
* `HoldsFirst.run` — a whole history of runs, of the registrar and of any other program.

`first_sockets_registered` says so of a service from the start, and what the registrar reports.
-/

namespace MeshTrace

/-- The key and the socket that a run offers for registration, if it does. -/
def Invocation.offer? : Invocation → Option (ConnectionKey × UInt64)
  | registrar event => if event.EndsHandshake then some (event.key, event.socket) else none
  | _ => none

/-- What the runs of a history offer for registration, in order. -/
def Invocation.offers (history : List Invocation) : List (ConnectionKey × UInt64) :=
  history.filterMap offer?

namespace Connection

/-- The keys that are offered, each where it first occurs. -/
def distinctKeys (offers : List (ConnectionKey × UInt64)) : List ConnectionKey :=
  (offers.map Prod.fst).eraseDups

/-- The keys that there is room for. -/
def registeredKeys (offers : List (ConnectionKey × UInt64)) : List ConnectionKey :=
  (distinctKeys offers).take maxConnections

variable {offers : List (ConnectionKey × UInt64)} {key : ConnectionKey}

/-- The distinct keys are those that come with some socket. -/
theorem mem_distinctKeys : key ∈ distinctKeys offers ↔ ∃ socket, (key, socket) ∈ offers := by
  simp [distinctKeys]

/-- A key that was offered before adds none. -/
theorem distinctKeys_append_of_mem (socket : UInt64) (h : key ∈ distinctKeys offers) :
    distinctKeys (offers ++ [(key, socket)]) = distinctKeys offers := by
  rw [mem_distinctKeys] at h
  simp [distinctKeys, List.eraseDups_append, List.removeAll, h]

/-- A key that was not offered before is the last one. -/
theorem distinctKeys_append_of_notMem (socket : UInt64) (h : key ∉ distinctKeys offers) :
    distinctKeys (offers ++ [(key, socket)]) = distinctKeys offers ++ [key] := by
  rw [mem_distinctKeys] at h
  simp [distinctKeys, List.eraseDups_append, List.removeAll, List.eraseDups_cons, h]

/-- A key that was offered before is looked up as before. -/
theorem lookup_append_of_mem (offer : ConnectionKey × UInt64) (h : key ∈ distinctKeys offers) :
    (offers ++ [offer]).lookup key = offers.lookup key := by
  obtain ⟨socket, hmem⟩ := mem_distinctKeys.mp h
  have hsome : (offers.lookup key).isSome :=
    List.lookup_isSome_iff.mpr ⟨(key, socket), hmem, beq_self_eq_true key⟩
  rw [List.lookup_append, Option.or_of_isSome hsome]

/-- A key that was not offered has no socket. -/
theorem lookup_of_notMem (h : key ∉ distinctKeys offers) : offers.lookup key = none := by
  rw [List.lookup_eq_none_iff]
  intro offer hmem
  have hne : key ≠ offer.1 := by
    rintro rfl
    exact h (mem_distinctKeys.mpr ⟨offer.2, hmem⟩)
  simpa using hne

end Connection

open Connection

/-- The table of sockets holds the first keys that were offered, each with the socket that it
was first offered with. -/
structure HoldsFirst (sockets : Table ConnectionKey UInt64)
    (offers : List (ConnectionKey × UInt64)) : Prop where
  capacity : sockets.capacity = some maxConnections
  size : sockets.size = (registeredKeys offers).length
  keys : ∀ key, sockets.contains key ↔ key ∈ registeredKeys offers
  socket : ∀ key ∈ registeredKeys offers, sockets.get? key = offers.lookup key

namespace HoldsFirst

variable {sockets : Table ConnectionKey UInt64} {offers : List (ConnectionKey × UInt64)}

/-- The table of a service that was just loaded holds the sockets of no offers. -/
theorem empty : HoldsFirst (.empty (some maxConnections)) [] where
  capacity := rfl
  size := rfl
  keys key := by
    simp [Table.contains_eq_isSome_get?, registeredKeys, distinctKeys]
  socket key h := by
    simp [registeredKeys, distinctKeys] at h

/-- The table is full once there are as many keys as there is room for. -/
theorem isFull_iff (h : HoldsFirst sockets offers) :
    sockets.isFull ↔ maxConnections ≤ (distinctKeys offers).length := by
  have hsize := h.size
  rw [registeredKeys, List.length_take] at hsize
  simp only [Table.isFull, h.capacity, Option.any_some, decide_eq_true_eq]
  omega

/-- An offer that adds no key to the registered ones leaves the table right. -/
theorem of_registeredKeys_eq (h : HoldsFirst sockets offers) {offer : ConnectionKey × UInt64}
    (hsame : registeredKeys (offers ++ [offer]) = registeredKeys offers) :
    HoldsFirst sockets (offers ++ [offer]) where
  capacity := h.capacity
  size := by rw [hsame, h.size]
  keys key := by rw [hsame, h.keys]
  socket key hkey := by
    rw [hsame] at hkey
    rw [h.socket key hkey, lookup_append_of_mem _ (List.mem_of_mem_take hkey)]

/-- As long as there is room, every key that was offered is registered. -/
theorem registeredKeys_eq (h : HoldsFirst sockets offers) (hroom : ¬sockets.isFull) :
    registeredKeys offers = distinctKeys offers := by
  rw [h.isFull_iff] at hroom
  exact List.take_of_length_le (by omega)

/-- A new key that there is room for is the next of the registered ones. -/
theorem registeredKeys_append (h : HoldsFirst sockets offers) {key : ConnectionKey}
    (socket : UInt64) (hnew : key ∉ distinctKeys offers) (hroom : ¬sockets.isFull) :
    registeredKeys (offers ++ [(key, socket)]) = registeredKeys offers ++ [key] := by
  have hfits : (distinctKeys offers ++ [key]).length ≤ maxConnections := by
    rw [h.isFull_iff] at hroom
    rw [List.length_append, List.length_singleton]
    omega
  rw [h.registeredKeys_eq hroom, registeredKeys, distinctKeys_append_of_notMem socket hnew,
    List.take_of_length_le hfits]

/-- A key that there is no room for is not registered. -/
theorem registeredKeys_append_of_isFull (h : HoldsFirst sockets offers) (key : ConnectionKey)
    (socket : UInt64) (hfull : sockets.isFull) :
    registeredKeys (offers ++ [(key, socket)]) = registeredKeys offers := by
  have hlong := h.isFull_iff.mp hfull
  -- A key that found no room earlier is among the distinct ones although it is not there.
  by_cases hmem : key ∈ distinctKeys offers
  · rw [registeredKeys, distinctKeys_append_of_mem socket hmem, registeredKeys]
  · rw [registeredKeys, distinctKeys_append_of_notMem socket hmem,
      List.take_append_of_le_length hlong, registeredKeys]

/-- A new key that there is room for is found with the socket that it is offered with. -/
theorem put (h : HoldsFirst sockets offers) {key : ConnectionKey} (socket : UInt64)
    (hnew : ¬sockets.contains key) (hroom : ¬sockets.isFull) :
    HoldsFirst (sockets.put key socket) (offers ++ [(key, socket)]) := by
  have hfresh : key ∉ distinctKeys offers := by
    rwa [h.keys, h.registeredKeys_eq hroom] at hnew
  have hkeys := h.registeredKeys_append socket hfresh hroom
  refine ⟨h.capacity, ?_, ?_, ?_⟩
  · have hnone : sockets.get? key = none := by
      rw [Table.contains_eq_isSome_get?] at hnew
      simpa using hnew
    rw [hkeys, Table.size_put_of_get?_eq_none socket hnone, h.size, List.length_append,
      List.length_singleton]
  · intro other
    rw [hkeys, Table.contains_eq_isSome_get?, Table.get?_put, List.mem_append, ← h.keys,
      Table.contains_eq_isSome_get?, List.mem_singleton]
    by_cases heq : key = other
    · simp [heq]
    · simp [heq, Ne.symm heq]
  · intro other hother
    rw [hkeys, List.mem_append, List.mem_singleton] at hother
    rw [Table.get?_put]
    rcases hother with hold | rfl
    · have hne : key ≠ other := by
        rintro rfl
        exact hnew ((h.keys key).mpr hold)
      rw [if_neg hne, h.socket other hold, lookup_append_of_mem _ (List.mem_of_mem_take hold)]
    · rw [if_pos rfl, List.lookup_append, lookup_of_notMem hfresh, Option.none_or]
      simp

/-- **One more offer.**  A present key or a full table refuses it; else its key is the next of
the registered ones. -/
theorem offer (h : HoldsFirst sockets offers) (key : ConnectionKey) (socket : UInt64) :
    HoldsFirst ((registerNew sockets key socket).toOption.getD sockets)
      (offers ++ [(key, socket)]) := by
  unfold registerNew
  by_cases hcontains : sockets.contains key
  · have hmem : key ∈ distinctKeys offers := List.mem_of_mem_take ((h.keys key).mp hcontains)
    rw [if_pos hcontains]
    apply h.of_registeredKeys_eq
    rw [registeredKeys, distinctKeys_append_of_mem socket hmem, registeredKeys]
  · by_cases hfull : sockets.isFull
    · rw [if_neg hcontains, if_pos hfull]
      exact h.of_registeredKeys_eq (h.registeredKeys_append_of_isFull key socket hfull)
    · rw [if_neg hcontains, if_neg hfull]
      exact h.put socket hcontains hfull

end HoldsFirst

namespace Kernel

/-- The registrar offers the socket of an event that ends a handshake, and does nothing else. -/
theorem registerSocket_eq (kernel : Kernel) (event : SocketEvent) :
    kernel.registerSocket event =
      if event.EndsHandshake then
        match registerNew kernel.sockets event.key event.socket with
        | .ok sockets => (0, { kernel with sockets }, [])
        | .error error => (0, kernel, [.registrationFailed error])
      else (0, kernel, []) := by
  by_cases h : event.EndsHandshake
  · have hkey : event.key? = some event.key := event.key?_eq.trans (if_pos h)
    rw [if_pos h]
    cases hnew : registerNew kernel.sockets event.key event.socket with
    | ok sockets => simp only [registerSocket, hkey, hnew]
    | error error => simp only [registerSocket, hkey, hnew]
  · have hkey : event.key? = none := event.key?_eq.trans (if_neg h)
    rw [if_neg h]
    simp only [registerSocket, hkey]

theorem registerSocket_fst (kernel : Kernel) (event : SocketEvent) :
    (kernel.registerSocket event).1 = 0 := by
  rw [registerSocket_eq]
  split
  · split <;> rfl
  · rfl

/-- An error is reported exactly for an event that ends a handshake and whose key is there or
finds no room. -/
theorem reports_registerSocket_iff (kernel : Kernel) (event : SocketEvent) :
    (∃ record ∈ (kernel.registerSocket event).2.2, record.isError) ↔
      event.EndsHandshake ∧ (kernel.sockets.contains event.key ∨ kernel.sockets.isFull) := by
  rw [registerSocket_eq]
  by_cases h : event.EndsHandshake
  · rw [if_pos h, registerNew]
    by_cases hcontains : kernel.sockets.contains event.key
    · simp [h, hcontains, KernelRecord.isError]
    · by_cases hfull : kernel.sockets.isFull
      · simp [h, hcontains, hfull, KernelRecord.isError]
      · simp [h, hcontains, hfull]
  · simp [h]

/-- The registrar changes the table only after a handshake, and only if the socket can be
registered. -/
theorem sockets_registerSocket (kernel : Kernel) (event : SocketEvent) :
    (kernel.registerSocket event).2.1.sockets =
      if event.EndsHandshake then
        (registerNew kernel.sockets event.key event.socket).toOption.getD kernel.sockets
      else kernel.sockets := by
  rw [registerSocket_eq]
  by_cases h : event.EndsHandshake
  · rw [if_pos h, if_pos h]
    cases registerNew kernel.sockets event.key event.socket <;> rfl
  · rw [if_neg h, if_neg h]

/-- A locator leaves the registered sockets alone. -/
theorem Located.sockets {kernel : Kernel} {peer : UInt32} {msg : Message} {run : MessageRun}
    (h : Located kernel peer msg run) : run.kernel.sockets = kernel.sockets := by
  cases h <;> rfl

/-- No program but the registrar touches the table of sockets. -/
theorem sockets_invoke (kernel : Kernel) (next : Invocation) :
    (kernel.invoke next).sockets =
      match next.offer? with
      | some (key, socket) => (registerNew kernel.sockets key socket).toOption.getD kernel.sockets
      | none => kernel.sockets := by
  cases next with
  | registrar event =>
      rw [invoke, sockets_registerSocket, Invocation.offer?]
      by_cases h : event.EndsHandshake
      · rw [if_pos h, if_pos h]
      · rw [if_neg h, if_neg h]
  | locator peer msg => exact (locateHeader_located kernel peer msg).sockets
  | extendedLocator peer msg => exact (locateExtended_located kernel peer msg).sockets
  | propagator peer msg => rfl
  | callLocator msg => rfl
  | streamParser inbound => rfl
  | streamVerdict inbound =>
      rw [invoke, cacheReceived]
      split <;> rfl

end Kernel

namespace HoldsFirst

variable {kernel : Kernel} {offers : List (ConnectionKey × UInt64)}

/-- **One run of a program**, whichever it is, registers what it offers. -/
theorem invoke (h : HoldsFirst kernel.sockets offers) (next : Invocation) :
    HoldsFirst (kernel.invoke next).sockets (offers ++ next.offer?.toList) := by
  rw [Kernel.sockets_invoke]
  cases next.offer? with
  | none => simpa using h
  | some offered => exact h.offer offered.1 offered.2

/-- **A history of runs.** -/
theorem run (h : HoldsFirst kernel.sockets offers) (history : List Invocation) :
    HoldsFirst (kernel.run history).sockets (offers ++ Invocation.offers history) := by
  induction history generalizing kernel offers with
  | nil => simpa [Kernel.run, Invocation.offers] using h
  | cons next rest ih =>
      have hrest := ih (h.invoke next)
      have hoffers : Invocation.offers (next :: rest) =
          next.offer?.toList ++ Invocation.offers rest := by
        unfold Invocation.offers
        cases h : next.offer? <;> simp [h]
      rwa [hoffers, ← List.append_assoc]

end HoldsFirst

/-- **Which sockets are registered.**  Whatever programs have run since the table of sockets
was made: it holds the first `maxConnections` of the keys that events which end a handshake
offered, in the order in which they first occurred, each with the socket that it was first
offered with, and nothing else.  The registrar returns 0 for whatever event comes next, and
reports an error exactly if the event ends a handshake and its key is registered or the table
is full.  Two events that tell the ends of their connections have one key exactly if the ends
are the same, and the two ends of one connection have keys that are each other's reverse. -/
theorem first_sockets_registered (maps : Maps) (targets : List JumpTarget)
    (history : List Invocation) :
    let kernel := ({ maps, targets } : Kernel).run history
    let offers := Invocation.offers history
    let registered := (distinctKeys offers).take maxConnections
    (∀ key, kernel.sockets.contains key ↔ key ∈ registered) ∧
      (∀ key ∈ registered, kernel.sockets.get? key = offers.lookup key) ∧
      kernel.sockets.size = registered.length ∧
      (∀ event, (kernel.registerSocket event).1 = 0 ∧
        ((∃ record ∈ (kernel.registerSocket event).2.2, record.isError) ↔
          event.EndsHandshake ∧
            (event.key ∈ registered ∨ registered.length = maxConnections))) ∧
      ∀ (a b : SocketEvent) (ends others : Ends), a.Tells ends → b.Tells others →
        (a.key = b.key ↔ ends = others) ∧ (others = ends.reversed → b.key = a.key.reversed) := by
  intro kernel offers registered
  have hstart : HoldsFirst ({ maps, targets } : Kernel).sockets [] := .empty
  have h : HoldsFirst kernel.sockets offers := by simpa using hstart.run history
  have hfull : kernel.sockets.isFull ↔ registered.length = maxConnections := by
    rw [h.isFull_iff, List.length_take]
    omega
  refine ⟨h.keys, h.socket, h.size, fun event => ⟨kernel.registerSocket_fst event, ?_⟩, ?_⟩
  · rw [kernel.reports_registerSocket_iff, h.keys, hfull]
    exact Iff.rfl
  · intro a b ends others ha hb
    rw [ha.key_eq, hb.key_eq, Ends.key_inj]
    refine ⟨Iff.rfl, ?_⟩
    rintro rfl
    exact ends.key_reversed

/-- Both ends of a connection on one machine are registered under keys of their own.  A third
socket comes for the key of the first one, which keeps its place. -/
theorem first_sockets_registered_bothEnds :
    let ends : Ends := ⟨⟨0x0100007F, 8080⟩, ⟨0x0200007F, 443⟩⟩
    let caller : SocketEvent := ⟨4, 2, 0x0100007F, 0x0200007F, 8080, 0xBB010000, 1⟩
    let answerer : SocketEvent := ⟨5, 10, 0x0200007F, 0x0100007F, 443, 0x901F0000, 2⟩
    let second : SocketEvent := { caller with socket := 3 }
    let history : List Invocation := [.registrar caller, .registrar answerer, .registrar second]
    let kernel := ({} : Kernel).run history
    caller.Tells ends ∧ answerer.Tells ends.reversed ∧ answerer.key = caller.key.reversed ∧
      caller.key ≠ answerer.key ∧ kernel.sockets.size = 2 ∧
      kernel.sockets.get? caller.key = some 1 ∧ kernel.sockets.get? answerer.key = some 2 ∧
      ∃ record ∈ (kernel.registerSocket second).2.2, record.isError := by
  intro ends caller answerer second history kernel
  have hcaller : caller.Tells ends := ⟨rfl, rfl, rfl, by decide⟩
  have hanswerer : answerer.Tells ends.reversed := ⟨rfl, rfl, rfl, by decide⟩
  obtain ⟨-, hsocket, hsize, hreports, hkeys⟩ :=
    first_sockets_registered .bounded JumpTarget.all history
  obtain ⟨hsame, hreversed⟩ := hkeys caller answerer ends ends.reversed hcaller hanswerer
  refine ⟨hcaller, hanswerer, hreversed rfl, ?_, ?_, ?_, ?_, ?_⟩
  · rw [Ne, hsame]
    decide
  · exact hsize.trans (by decide +kernel)
  · exact (hsocket caller.key (by decide +kernel)).trans (by decide +kernel)
  · exact (hsocket answerer.key (by decide +kernel)).trans (by decide +kernel)
  · exact (hreports second).2.mpr ⟨by decide, Or.inl (by decide +kernel)⟩

end MeshTrace

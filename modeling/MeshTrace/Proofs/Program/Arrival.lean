import MeshTrace.Proofs.Frame.RoundTrip
import MeshTrace.Proofs.Program.Composition
import MeshTrace.Proofs.Window

/-!
# How a message arrived does not matter

Of an inbound message only a part may be in memory, and the parser asks for the rest.  If it
gets it, or has it already, the verdict does to the maps what it does to a message that is
there as a whole.  If not, the verdict still has the bytes in view, and these either hold
the whole context frame or hold too little for any: the reader of context frames looks at the
first 118 bytes, and fewer are no frame at all (`read?_eq_of_prefix`, `read?_eq_none_of_short`).

So there is no third outcome: the maps end up as for the whole message or as they were
(`arrival_is_immaterial`).
-/

namespace MeshTrace

namespace Context

variable {narrow wide : List UInt8}

/-- Behind the first 118 bytes the reader sees nothing. -/
theorem read?_eq_of_prefix (h : narrow <+: wide) (hlength : frameSize ≤ narrow.length) :
    read? narrow = read? wide := by
  cases hnarrow : read? narrow with
  | some found =>
      have hwide := read?_of_prefix h hnarrow
      exact hwide.symm
  | none =>
      have hother : Bytes.byte? narrow 3 ≠ some Frame.contextType := by
        rcases read?_eq_none_iff.mp hnarrow with hshort | hother
        · exact absurd hlength (Nat.not_le_of_lt hshort)
        · exact hother
      have hinside : 3 < narrow.length := Nat.lt_of_lt_of_le (by decide) hlength
      have hsame : Bytes.byte? wide 3 = Bytes.byte? narrow 3 := by
        obtain ⟨rest, rfl⟩ := h
        exact List.getElem?_append_left hinside
      rw [← hsame] at hother
      exact (read?_eq_none_iff.mpr (Or.inr hother)).symm

/-- A message shorter than a context frame has none. -/
theorem read?_eq_none_of_short (h : wide.length < frameSize) : read? wide = none :=
  read?_eq_none_iff.mpr (Or.inl h)

end Context

namespace Inbound

variable {inbound : Inbound}

/-- Why the rest of a message cannot be had, if there is a rest that is not in memory and
asking for it fails. -/
def pullFailure? (inbound : Inbound) : Option KernelError :=
  if inbound.addressable.length < inbound.bytes.length then inbound.pullError else none

/-- What can be addressed is the start of the message. -/
theorem addressable_prefix (inbound : Inbound) : inbound.addressable <+: inbound.bytes := by
  unfold addressable Message.withinWindow
  cases inbound.window with
  | none => exact List.prefix_rfl
  | some window => exact List.take_prefix window inbound.bytes

/-- The parser returns the whole length whether or not it gets the rest. -/
theorem pullAll_fst (inbound : Inbound) : inbound.pullAll.1 = inbound.bytes.length := by
  unfold pullAll pull
  cases inbound.pullError with
  | none => dsimp only; split <;> rfl
  | some error => dsimp only; split <;> rfl

/-- A parser that does not fail leaves the whole message in memory, without a record. -/
theorem pullAll_of_had (h : inbound.pullFailure? = none) :
    inbound.pullAll.2.1.addressable = inbound.bytes ∧ inbound.pullAll.2.2 = [] := by
  by_cases hshort : inbound.addressable.length < inbound.bytes.length
  · have herror : inbound.pullError = none := by rwa [pullFailure?, if_pos hshort] at h
    refine ⟨addressable_pullAll (Or.inr herror), ?_⟩
    simp only [pullAll, if_pos hshort, pull, herror]
  · have hall : inbound.addressable = inbound.bytes :=
      Message.withinWindow_eq_self (Nat.le_of_not_lt hshort)
    refine ⟨addressable_pullAll (Or.inl hall), ?_⟩
    rw [pullAll, if_neg hshort]

/-- A parser that fails leaves the message as it found it, with a record. -/
theorem pullAll_of_failure {error : KernelError} (h : inbound.pullFailure? = some error) :
    inbound.pullAll.2 = (inbound, [.pullFailed inbound.bytes.length error]) := by
  by_cases hshort : inbound.addressable.length < inbound.bytes.length
  · have herror : inbound.pullError = some error := by rwa [pullFailure?, if_pos hshort] at h
    simp only [pullAll, if_pos hshort, pull, herror]
  · rw [pullFailure?, if_neg hshort] at h
    cases h

end Inbound

namespace Kernel

variable {inbound : Inbound}

/-- What the verdict does depends on the bytes in view only. -/
theorem cacheReceived_congr (kernel : Kernel) {inbound other : Inbound}
    (h : inbound.addressable = other.addressable) :
    kernel.cacheReceived inbound = kernel.cacheReceived other := by
  rw [cacheReceived, cacheReceived, h]

/-- A message is pulled and then looked at by the verdict. -/
theorem receive_eq (kernel : Kernel) (inbound : Inbound) :
    (kernel.receive inbound).2.2.2 =
      let cached := (kernel.cacheReceived inbound.pullAll.2.1).2
      (cached.1, inbound.pullAll.2.2 ++ cached.2) := rfl

/-- If the rest of a message can be had, the verdict sees all of it. -/
theorem receive_of_had (kernel : Kernel) (h : inbound.pullFailure? = none) :
    (kernel.receive inbound).2.2.2 = (kernel.cacheReceived { bytes := inbound.bytes }).2 := by
  obtain ⟨haddressable, hrecords⟩ := Inbound.pullAll_of_had h
  have hcached : kernel.cacheReceived inbound.pullAll.2.1 =
      kernel.cacheReceived { bytes := inbound.bytes } :=
    kernel.cacheReceived_congr haddressable
  rw [receive_eq, hrecords, hcached]
  rfl

/-- Where the rest cannot be had, the frame is in view as a whole or not at all. -/
theorem receive_of_failure (kernel : Kernel) {error : KernelError}
    (h : inbound.pullFailure? = some error) :
    (kernel.receive inbound).2.2.2 =
      if Context.frameSize ≤ inbound.addressable.length then
        let cached := (kernel.cacheReceived { bytes := inbound.bytes }).2
        (cached.1, .pullFailed inbound.bytes.length error :: cached.2)
      else (kernel, [.pullFailed inbound.bytes.length error]) := by
  rw [receive_eq, Inbound.pullAll_of_failure h]
  by_cases hlength : Context.frameSize ≤ inbound.addressable.length
  · have hread := Context.read?_eq_of_prefix inbound.addressable_prefix hlength
    have hcached : kernel.cacheReceived inbound =
        kernel.cacheReceived { bytes := inbound.bytes } := by
      rw [cacheReceived, cacheReceived, hread]
      rfl
    rw [if_pos hlength, hcached]
    rfl
  · have hread := Context.read?_eq_none_of_short (Nat.lt_of_not_le hlength)
    have hcached : kernel.cacheReceived inbound = (.pass, kernel, []) := by
      rw [cacheReceived, hread]
    rw [if_neg hlength, hcached]
    rfl

/-- A context frame in front of any bytes is cached. -/
theorem cacheReceived_frame (kernel : Kernel) {rawId : List UInt8} (path : Path)
    (rest : List UInt8) (h : rawId.length = Context.traceIdSize) :
    (kernel.cacheReceived { bytes := Context.frame rawId path ++ rest }).2.1 =
      { kernel with maps := (kernel.maps.cachePath (Propagation.traceIdOf rawId) path).2 } := by
  have hread : Context.read? (Inbound.addressable
      { bytes := Context.frame rawId path ++ rest }) =
        some (Propagation.traceIdOf rawId, path) :=
    Context.read?_frame path rest h
  rw [cacheReceived, hread]

end Kernel

/-- **How a message arrived does not matter.**  Let any part of any message be in memory.
The parser returns the length of the whole message, and the verdict is the one on the
message in memory as a whole.  If the parser gets the rest, or need not ask, so are the maps
and the records, and the path of a context frame in front of any bytes is cached under its
trace id.  If it asks and fails, the maps end up as for the whole message where its first
118 bytes are in view, and as they were where fewer are; the failure is recorded. -/
theorem arrival_is_immaterial (kernel : Kernel) (inbound : Inbound) :
    let received := kernel.receive inbound
    let whole := kernel.receive { bytes := inbound.bytes }
    received.1 = inbound.bytes.length ∧ received.2.1 = whole.2.1 ∧
      (inbound.pullFailure? = none → received.2.2.2 = whole.2.2.2 ∧
        ∀ rawId path rest, rawId.length = Context.traceIdSize →
          inbound.bytes = Context.frame rawId path ++ rest →
          received.2.2.2.1 =
            { kernel with maps := (kernel.maps.cachePath (Propagation.traceIdOf rawId) path).2 }) ∧
      ∀ error, inbound.pullFailure? = some error →
        received.2.2.2 =
          if Context.frameSize ≤ inbound.addressable.length then
            (whole.2.2.2.1, .pullFailed inbound.bytes.length error :: whole.2.2.2.2)
          else (kernel, [.pullFailed inbound.bytes.length error]) := by
  intro received whole
  have hwhole : whole.2.2.2 = (kernel.cacheReceived { bytes := inbound.bytes }).2 := by
    refine kernel.receive_of_had ?_
    exact if_neg (Nat.lt_irrefl _)
  have hverdict : received.2.1 = whole.2.1 :=
    (kernel.verdict_cacheReceived inbound.pullAll.2.1).trans
      (kernel.verdict_cacheReceived _).symm
  refine ⟨inbound.pullAll_fst, hverdict, ?_, ?_⟩
  · intro hhad
    have hreceived : received.2.2.2 = whole.2.2.2 := (kernel.receive_of_had hhad).trans hwhole.symm
    refine ⟨hreceived, ?_⟩
    intro rawId path rest hrawId hbytes
    rw [hreceived, hwhole, hbytes]
    exact kernel.cacheReceived_frame path rest hrawId
  · intro error hfailure
    rw [hwhole]
    exact kernel.receive_of_failure hfailure

/-- A frame of which the last byte is not in memory is cached if the rest can be had, and is
lost if not. -/
theorem arrival_is_immaterial_straddling :
    let kernel : Kernel := {}
    let rawId : List UInt8 := [0, 0, 0, 0, 0, 0, 0, 9]
    let straddling : Inbound :=
      { bytes := Context.frame rawId (.single 7) ++ [1, 2, 3], window := some 117 }
    let stuck : Inbound := { straddling with pullError := some .noEntry }
    rawId.length = Context.traceIdSize ∧ straddling.pullFailure? = none ∧
      stuck.pullFailure? = some .noEntry ∧
      (kernel.receive straddling).2.2.2.1 =
        { kernel with maps := (kernel.maps.cachePath 9 (.single 7)).2 } ∧
      (kernel.receive stuck).2.2.2 = (kernel, [.pullFailed 121 .noEntry]) := by
  intro kernel rawId straddling stuck
  obtain ⟨-, -, hcached, -⟩ := arrival_is_immaterial kernel straddling
  obtain ⟨-, -, -, hlost⟩ := arrival_is_immaterial kernel stuck
  have hrawId : rawId.length = Context.traceIdSize := rfl
  have hid : Propagation.traceIdOf rawId = 9 := by decide
  have hhad : straddling.pullFailure? = none := by decide +kernel
  have hstuck : stuck.pullFailure? = some .noEntry := by decide +kernel
  refine ⟨hrawId, hhad, hstuck, ?_, ?_⟩
  · have hmaps := (hcached hhad).2 rawId (.single 7) [1, 2, 3] hrawId rfl
    rwa [hid] at hmaps
  · have hcut : ¬Context.frameSize ≤ stuck.addressable.length := by decide +kernel
    have hended := hlost .noEntry hstuck
    rwa [if_neg hcut] at hended

end MeshTrace

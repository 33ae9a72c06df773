import MeshTrace.Proofs.Header.Passes
import MeshTrace.Proofs.Program.Outbound

/-!
# From the locator to the propagator

The locator, its second pass and the propagator are three programs.  Nothing goes
from one to the next but two slots, which are refused where they hold more than
`Header.maxOffset`, while a scan goes on to the end of the frame.  Still no header is
lost between them: where the locator finds the tracing header, and eight bytes of its
value lie inside the message and the frame, one run of the locator ends with the
context frame in front (`locateHeader_handsOver`).

Two facts carry this.  A first pass examines too few fields to get beyond
`Header.maxOffset`, and a second pass runs only with a frame length up to it, so the
header starts early enough (`locate_found`, `resume_found`).  And the value starts
where the propagator looks for it, in both forms of the field
(`IsTracing.valueStart?_eq`).
-/

namespace MeshTrace

open Propagation

/-- The locator finds the tracing header of a message at `offset`: in its first pass,
or in its second one, which goes on from what the first one saved. -/
def Maps.Finds (maps : Maps) (peer : UInt32) (bytes : List UInt8) (offset : UInt32) : Prop :=
  (maps.locate peer bytes).1 = .found offset ∨
    ∃ rest, (maps.locate peer bytes).1 = .exhausted rest ∧
      (((maps.locate peer bytes).2.saveContinuation rest).resume peer bytes).1 = .found offset

/-- A saved continuation is read back as it was, and only within bounds. -/
theorem ArgSlots.load?_save {slots : ArgSlots} {rest start : Continuation}
    (hoffset : slots.offset.present) (hlength : slots.frameLength.present)
    (h : (slots.save rest).load? = some start) :
    start = rest ∧ rest.offset ≤ Header.maxOffset ∧ rest.frameLength ≤ Header.maxOffset := by
  rw [load?_save_eq hoffset hlength] at h
  split at h
  · rename_i hbounds
    cases h
    exact ⟨rfl, hbounds⟩
  · cases h

namespace Kernel

variable {kernel : Kernel} {peer : UInt32} {msg : Message} {offset : UInt32} {lead : UInt8}
  {cursor : Option UInt8} {start : Nat}

/-- The message goes out with the context frame of the header whose value starts at
`start`, and the maps tell of it: the path is used up, and the peer's cursor is where
the header now stands in its table. -/
structure HandsOver (kernel : Kernel) (peer : UInt32) (msg : Message) (start : Nat)
    (lead : UInt8) (traceId : UInt64) (path : Path) (run : MessageRun) : Prop where
  verdict : run.verdict = .pass
  bytes : run.msg.bytes =
    Context.frame ((msg.bytes.drop start).take Context.traceIdSize) path ++ msg.bytes
  used : run.kernel.maps.paths.get? traceId = none
  kept : ∀ other, other ≠ traceId →
    run.kernel.maps.paths.get? other = kernel.maps.paths.get? other
  cursor : run.kernel.maps.cursors.get? peer =
    some (if namesItself lead then Header.dynamicTableBase else Header.indexOf lead)
  otherCursors : ∀ other, other ≠ peer →
    run.kernel.maps.cursors.get? other = kernel.maps.cursors.get? other
  records : run.records = [.propagated traceId path.count]

/-- Once the scan has ended with the cursor at the header, the propagator reads the
offset from its slot and puts the frame in front. -/
theorem tailCall_handsOver {args : ArgSlots} {cursors : Table UInt32 UInt8} {service : UInt8}
    (hslot : args.offset.present) (hservice : kernel.maps.service.get? = some service)
    (htarget : .propagator ∈ kernel.targets)
    (hfull : cursors.isFull = false)
    (hothers : ∀ other, other ≠ peer → cursors.get? other = kernel.maps.cursors.get? other)
    (haddressable : msg.addressable = msg.bytes) (hroom : msg.HasRoom Context.frameSize)
    (htracing : Header.IsTracing msg.bytes (cursors.get? peer) offset.toNat lead)
    (hoffset : offset ≤ Header.maxOffset)
    (hstart : Header.valueStart? msg.bytes offset.toNat = some start)
    (hfit : start + Context.traceIdSize ≤ msg.bytes.length) :
    let traceId := traceIdOf ((msg.bytes.drop start).take Context.traceIdSize)
    HandsOver kernel peer msg start lead traceId (nextPath kernel.maps service traceId)
      (tailCall (kernel.scanned (args.saveFound offset) cursors) msg .propagator
        fun kernel => kernel.propagatePath peer msg) := by
  intro traceId
  let maps := kernel.maps.scanned (args.saveFound offset) cursors
  have hvalue : valueOffset offset.toNat lead = start := by
    rw [htracing.valueStart?_eq] at hstart
    exact Option.some.inj hstart
  have hheader : header? maps msg.addressable = some (offset.toNat, lead) := by
    have hread : ArgSlots.bounded? (args.saveFound offset).offset = some offset := by
      rw [ArgSlots.bounded?_saveFound, if_pos ⟨hslot, hoffset⟩]
    simp [header?, maps, Maps.scanned, hread, haddressable, htracing.leading]
  have reads : Reads maps msg offset.toNat lead
      ((msg.bytes.drop start).take Context.traceIdSize) service := by
    refine ⟨hheader, ?_, hservice⟩
    rw [hvalue, haddressable]
    exact Bytes.slice?_eq_some_iff.mpr ⟨hfit, rfl⟩
  have hframe : msg.HasRoom
      (nextFrame maps ((msg.bytes.drop start).take Context.traceIdSize) service).length := by
    rwa [reads.length_nextFrame]
  obtain ⟨sent, hsent, hpropagate⟩ := Maps.propagate_of_hasRoom peer reads hframe
  have hrun : tailCall (kernel.scanned (args.saveFound offset) cursors) msg .propagator
      (fun kernel => kernel.propagatePath peer msg) =
      (kernel.scanned (args.saveFound offset) cursors).propagatePath peer msg := by
    unfold tailCall
    exact if_pos htarget
  have hmaps : (kernel.scanned (args.saveFound offset) cursors).maps = maps := rfl
  rw [hrun]
  unfold propagatePath
  rw [hmaps, hpropagate]
  have hcursors : (trackNewName maps peer lead).cursors =
      if namesItself lead then cursors.insert peer Header.dynamicTableBase else cursors := by
    unfold trackNewName
    split <;> rfl
  refine ⟨rfl, hsent, ?_, ?_, ?_, ?_, rfl⟩
  · exact (Table.get?_erase _ _ _).trans (if_pos rfl)
  · intro other hother
    exact (Table.get?_erase _ _ _).trans (if_neg fun heq => hother heq.symm)
  · dsimp only
    rw [hcursors]
    split
    · exact Table.get?_insert_self _ (Or.inr hfull)
    · rename_i hnames
      rcases htracing.named with ⟨hnew, -⟩ | ⟨-, hcursor⟩
      · exact absurd ((Header.namesItself_iff lead htracing.enters).mpr hnew) hnames
      · exact hcursor
  · intro other hother
    dsimp only
    rw [hcursors]
    split
    · exact (Table.get?_insert_of_ne _ _ hother).trans (hothers other hother)
    · exact hothers other hother

/-- Where the value of a header lies inside a frame that a second pass accepts, the
header starts early enough for the propagator. -/
theorem le_maxOffset_of_value {frameLength : UInt32}
    (htracing : Header.IsTracing msg.bytes cursor offset.toNat lead)
    (hstart : Header.valueStart? msg.bytes offset.toNat = some start)
    (hframe : start + Context.traceIdSize ≤ Frame.headerSize + frameLength.toNat)
    (hbound : frameLength ≤ Header.maxOffset) : offset ≤ Header.maxOffset := by
  have hvalue : offset.toNat + 2 ≤ start := by
    rw [htracing.valueStart?_eq, Option.some.injEq] at hstart
    unfold valueOffset at hstart
    split at hstart <;> omega
  have hmax : Header.maxOffset.toNat = 2048 := by decide
  rw [UInt32.le_iff_toNat_le, hmax] at hbound ⊢
  unfold Context.traceIdSize Frame.headerSize at hframe
  omega

end Kernel

/-- **No header is lost between the programs.**  Let the slots and the service's id be
there, both jump-table entries be present and the table of cursors have room, and let
the locator find the tracing header of a wholly addressable message, with eight bytes
of the header's value inside the message and its frame.  If a context frame can then
be put in front, one run of the locator does it: neither limit on the slots stops it. -/
theorem locateHeader_handsOver {kernel : Kernel} {peer : UInt32} {msg grown : Message}
    {word offset : UInt32} {start : Nat}
    (hoffset : kernel.maps.args.offset.present)
    (hlength : kernel.maps.args.frameLength.present)
    (hservice : kernel.maps.service.present)
    (htargets : ∀ target, target ∈ kernel.targets)
    (hfull : kernel.maps.cursors.isFull = false)
    (haddressable : msg.addressable = msg.bytes)
    (hgrow : msg.grow? Context.frameSize = some grown)
    (hgrown : grown.addressable = grown.bytes)
    (hword : Frame.firstWord? Frame.headersType msg.bytes = some word)
    (hfinds : kernel.maps.Finds peer msg.bytes offset)
    (hstart : Header.valueStart? msg.bytes offset.toNat = some start)
    (hmessage : start + Context.traceIdSize ≤ msg.bytes.length)
    (hframe : start + Context.traceIdSize ≤
      Frame.headerSize + (Frame.lengthOf word).toNat) :
    let traceId := traceIdOf ((msg.bytes.drop start).take Context.traceIdSize)
    let path := match kernel.maps.paths.get? traceId with
      | some cached => cached.extend kernel.maps.service.value
      | none => .single kernel.maps.service.value
    ∃ lead, Bytes.byte? msg.bytes offset.toNat = some lead ∧ offset ≤ Header.maxOffset ∧
      Kernel.HandsOver kernel peer msg start lead traceId path (kernel.locateHeader peer msg) := by
  intro traceId path
  have hroom := Message.hasRoom_of_grow? hgrow hgrown
  have hid : kernel.maps.service.get? = some kernel.maps.service.value := by
    simp [Cell.get?, hservice]
  rcases hfinds with hfirst | ⟨rest, hexhausted, hsecond⟩
  · -- The first pass finds the header, and the propagator runs on its offset.
    obtain ⟨cursors, hpass, hlocate, hroomLeft, hothers⟩ :=
      Maps.withCursor_eq_of_result (Header.isSome_locate msg.bytes) hfirst
    obtain ⟨hmax, lead, htracing⟩ := Header.locate_found hlocate
    have hrun : kernel.locateHeader peer msg =
        Kernel.tailCall (kernel.scanned (kernel.maps.args.saveFound offset) cursors) msg
          .propagator fun kernel => kernel.propagatePath peer msg := by
      rw [← haddressable] at hpass
      exact Kernel.locateHeader_of_found hpass
    refine ⟨lead, htracing.leading, UInt32.le_iff_toNat_le.mpr hmax, ?_⟩
    rw [hrun]
    exact Kernel.tailCall_handsOver hoffset hid (htargets _) (hroomLeft.trans hfull) hothers
      haddressable hroom htracing (UInt32.le_iff_toNat_le.mpr hmax) hstart hmessage
  · -- The first pass runs out, and the second one goes on where it stopped.
    obtain ⟨passed, hpass, hlocate, hroomPassed, hothersPassed⟩ :=
      Maps.withCursor_eq_of_result (Header.isSome_locate msg.bytes) hexhausted
    have hsaved : (kernel.maps.locate peer msg.bytes).2.saveContinuation rest =
        kernel.maps.scanned (kernel.maps.args.save rest) passed := by
      unfold Maps.locate
      rw [hpass]
      rfl
    rw [hsaved] at hsecond
    obtain ⟨cursors, hresumed, hresume, hroomLeft, hothers⟩ :=
      Maps.withCursor_eq_of_result
        (fun cursor => Header.isSome_resume msg.bytes cursor (kernel.maps.args.save rest).load?)
        hsecond
    cases hload : (kernel.maps.args.save rest).load? with
    | none =>
        rw [hload] at hresume
        cases hresume
    | some start' =>
        obtain ⟨rfl, hrest, hrestLength⟩ := ArgSlots.load?_save hoffset hlength hload
        rw [hload] at hresume
        obtain ⟨-, lead, htracing⟩ := Header.resume_found hresume hrest
        obtain ⟨word', hword', hlengthOf⟩ := Header.locate_exhausted hlocate
        obtain rfl : word = word' := Option.some.inj (hword.symm.trans hword')
        have hmax : offset ≤ Header.maxOffset :=
          Kernel.le_maxOffset_of_value htracing hstart hframe (hlengthOf ▸ hrestLength)
        have hrun : kernel.locateHeader peer msg =
            Kernel.tailCall
              (kernel.scanned ((kernel.maps.args.save start').saveFound offset) cursors) msg
              .propagator fun kernel => kernel.propagatePath peer msg := by
          rw [← haddressable] at hpass hresumed
          rw [Kernel.locateHeader_of_exhausted hpass (htargets _)]
          exact Kernel.locateExtended_of_found
            (kernel.scanned (kernel.maps.args.save start') passed) hresumed
        refine ⟨lead, htracing.leading, hmax, ?_⟩
        rw [hrun]
        exact Kernel.tailCall_handsOver (by simpa [ArgSlots.save] using hoffset) hid
          (htargets _) (hroomLeft.trans (hroomPassed.trans hfull))
          (fun other hne => (hothers other hne).trans (hothersPassed other hne))
          haddressable hroom htracing hmax hstart hmessage

/-- A message whose tracing header stands behind six other fields. -/
def seventhField : Message :=
  .ofBytes (Frame.encode Frame.headersType (Field.encodeAll
    (List.replicate 6 (.indexed 0x86) ++ [.tracing [1, 2, 3, 4, 5, 6, 7, 8, 9]])))

/-- A header behind six others is found in the second pass, and a service without a
path for it sends a first hop. -/
theorem locateHeader_handsOver_secondPass :
    let kernel : Kernel := { maps := { Maps.bounded with service := .holding 4 } }
    ∃ lead, Bytes.byte? seventhField.bytes 15 = some lead ∧ 15 ≤ Header.maxOffset ∧
      kernel.HandsOver 7 seventhField 27 lead (traceIdOf [1, 2, 3, 4, 5, 6, 7, 8]) (.single 4)
        (kernel.locateHeader 7 seventhField) := by
  intro kernel
  have htargets : ∀ target, target ∈ kernel.targets := by
    intro target
    cases target <;> decide
  have hword : Frame.firstWord? Frame.headersType seventhField.bytes = some 0x1b01 := by decide
  have hexhausted : (kernel.maps.locate 7 seventhField.bytes).1 = .exhausted ⟨15, 27⟩ := by rfl
  have hresumed : (((kernel.maps.locate 7 seventhField.bytes).2.saveContinuation
      ⟨15, 27⟩).resume 7 seventhField.bytes).1 = .found 15 := by rfl
  have hstart : Header.valueStart? seventhField.bytes 15 = some 27 := by decide
  have haddressable : seventhField.addressable = seventhField.bytes := rfl
  have hmessage : 27 + Context.traceIdSize ≤ seventhField.bytes.length := by decide
  have hframe : 27 + Context.traceIdSize ≤
      Frame.headerSize + (Frame.lengthOf 0x1b01).toNat := by decide
  have hgrow : seventhField.grow? Context.frameSize = some
      { bytes := List.replicate 118 0 ++ seventhField.bytes } := by rfl
  exact locateHeader_handsOver rfl rfl rfl htargets rfl haddressable hgrow rfl hword
    (Or.inr ⟨_, hexhausted, hresumed⟩) hstart hmessage hframe

end MeshTrace

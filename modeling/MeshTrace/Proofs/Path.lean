import MeshTrace.Path

/-!
# Extending a path

On its hops, extending a path is putting the service in front and dropping what goes
beyond `maxHops` (`hops_extend`).  A path that was started or extended is canonical:
it has between one and `maxHops` hops, and nothing stands behind them
(`canonical_single`, `canonical_extend`).  This is so for any record that is
extended, canonical or not.

A canonical record is told by its hops (`Canonical.eq_of_hops_eq`).  So any number of
extensions put their services in front, newest first, and forget of the record that they
started from all but its hops (`extensions_prepend_services`).
-/

namespace MeshTrace.Path

/-- A record with at least one hop, at most `maxHops`, and zeros behind them. -/
structure Canonical (path : Path) : Prop where
  pos : 0 < path.count.toNat
  le : path.count.toNat ≤ maxHops
  zeros : ∀ byte ∈ path.slots.drop path.count.toNat, byte = 0

/-- A single hop is looked up in the list of hops. -/
theorem hop?_eq (path : Path) (n : Nat) : path.hop? n = path.hops[n]? := by
  rw [hop?, hops, List.getElem?_take]

/-- Reading the first `count` places, as far as they are there, takes the first `count` bytes. -/
theorem filterMap_getElem?_range (bytes : List UInt8) (count : Nat) :
    (List.range count).filterMap (fun n => bytes[n]?) = bytes.take count := by
  induction count with
  | zero => rfl
  | succ count ih =>
      rw [List.range_succ, List.filterMap_append, ih, List.take_add_one]
      cases h : bytes[count]? <;> simp [h]

/-- The hops are those that can be looked up, from the newest on. -/
theorem hops_eq_filterMap_hop? (path : Path) :
    path.hops = (List.range path.count.toNat).filterMap path.hop? := by
  have hlookup : path.hop? = fun n => path.hops[n]? := funext path.hop?_eq
  have hall : path.hops.take path.count.toNat = path.hops := by
    rw [hops, List.take_take, Nat.min_self]
  rw [hlookup, filterMap_getElem?_range, hall]

/-- A path has as many hops as it counts, but not more than it has slots. -/
theorem length_hops (path : Path) : path.hops.length = min path.count.toNat pathSlots := by
  rw [hops, List.length_take, path.length_slots]

/-- A short list is padded with zeros at its end. -/
theorem padded_eq (bytes : List UInt8) {size : Nat} (h : bytes.length ≤ size) :
    padded bytes size = bytes ++ List.replicate (size - bytes.length) 0 := by
  rw [padded, List.take_append, List.take_of_length_le h, List.take_replicate]
  congr 2
  omega

/-- An extended path counts a hop at least. -/
theorem nextCount_pos (count : UInt8) : 0 < nextCount count := by
  unfold nextCount maxHops
  omega

/-- An extended path keeps the bound. -/
theorem nextCount_le (count : UInt8) : nextCount count ≤ maxHops :=
  Nat.min_le_right _ _

/-- The next count fits into the byte for it. -/
theorem toNat_count_extend (path : Path) (service : UInt8) :
    (path.extend service).count.toNat = nextCount path.count := by
  have hle := nextCount_le path.count
  unfold maxHops at hle
  exact UInt8.toNat_ofNat_of_lt' (by unfold UInt8.size; omega)

/-- As many bytes are kept as the next count says. -/
theorem length_take_nextCount (path : Path) (service : UInt8) :
    ((service :: path.slots).take (nextCount path.count)).length = nextCount path.count := by
  have hle := nextCount_le path.count
  rw [List.length_take, List.length_cons, path.length_slots]
  unfold maxHops pathSlots at *
  omega

/-- The slots of an extended path are the kept hops and zeros. -/
theorem slots_extend (path : Path) (service : UInt8) :
    (path.extend service).slots =
      (service :: path.slots).take (nextCount path.count) ++
        List.replicate (pathSlots - nextCount path.count) 0 := by
  have hlength := path.length_take_nextCount service
  have hle : nextCount path.count ≤ pathSlots := Nat.le_trans (nextCount_le _) (by decide)
  have hpadded := padded_eq ((service :: path.slots).take (nextCount path.count))
    (hlength.symm ▸ hle)
  rw [hlength] at hpadded
  exact hpadded

/-- **Extending is putting in front.**  The hops of an extended path are the service
and the hops before it, up to `maxHops`. -/
theorem hops_extend (path : Path) (service : UInt8) :
    (path.extend service).hops = (service :: path.hops).take maxHops := by
  have hkept : (path.extend service).hops =
      (service :: path.slots).take (nextCount path.count) := by
    rw [hops, toNat_count_extend, slots_extend]
    exact List.take_left' (path.length_take_nextCount service)
  have hcount : nextCount path.count = min (maxHops - 1) path.count.toNat + 1 := by
    unfold nextCount maxHops
    omega
  calc (path.extend service).hops
      = (service :: path.slots).take (min (maxHops - 1) path.count.toNat + 1) := by
        rw [hkept, hcount]
    _ = service :: (path.hops.take (maxHops - 1)) := by
        rw [List.take_succ_cons, hops, List.take_take]
    _ = (service :: path.hops).take maxHops := rfl

/-- An extended path is canonical, whatever it extends. -/
theorem canonical_extend (path : Path) (service : UInt8) : (path.extend service).Canonical where
  pos := by
    rw [toNat_count_extend]
    exact nextCount_pos _
  le := by
    rw [toNat_count_extend]
    exact nextCount_le _
  zeros := by
    intro byte hbyte
    rw [toNat_count_extend, slots_extend,
      List.drop_left' (path.length_take_nextCount service)] at hbyte
    exact (List.mem_replicate.mp hbyte).2

theorem hops_single (service : UInt8) : (single service).hops = [service] := rfl

/-- A path that starts at a service counts one hop and holds nothing else. -/
theorem canonical_single (service : UInt8) : (single service).Canonical where
  pos := by simp [single]
  le := by simp [single, maxHops]
  zeros := by
    intro byte hbyte
    have hfit : [service].length ≤ pathSlots := by simp [pathSlots]
    have hslots : (single service).slots = [service] ++ List.replicate (pathSlots - 1) 0 :=
      padded_eq [service] hfit
    have hcount : (single service).count.toNat = 1 := rfl
    rw [hslots, hcount] at hbyte
    exact (List.mem_replicate.mp hbyte).2

/-- A canonical record has as many hops as it counts. -/
theorem Canonical.length_hops {path : Path} (h : path.Canonical) :
    path.hops.length = path.count.toNat := by
  have hfit : path.count.toNat ≤ pathSlots := Nat.le_trans h.le (by decide)
  rw [Path.length_hops, Nat.min_eq_left hfit]

/-- The slots of a canonical record are its hops and zeros. -/
theorem Canonical.slots_eq {path : Path} (h : path.Canonical) :
    path.slots = path.hops ++ List.replicate (pathSlots - path.hops.length) 0 := by
  have hbehind : path.slots.drop path.count.toNat =
      List.replicate (pathSlots - path.hops.length) 0 := by
    rw [List.eq_replicate_iff, List.length_drop, path.length_slots, h.length_hops]
    exact ⟨rfl, h.zeros⟩
  rw [← hbehind, hops, List.take_append_drop]

/-- **A canonical record is told by its hops.** -/
theorem Canonical.eq_of_hops_eq {path other : Path} (h : path.Canonical) (h' : other.Canonical)
    (hhops : path.hops = other.hops) : path = other := by
  have hcount : path.count = other.count := by
    apply UInt8.toNat_inj.mp
    rw [← h.length_hops, ← h'.length_hops, hhops]
  have hslots : path.slots = other.slots := by
    rw [h.slots_eq, h'.slots_eq, hhops]
  exact Path.ext hcount hslots

/-- Bytes that are cut off already make no difference to a list cut off behind them. -/
theorem take_append_take (front back : List UInt8) (size : Nat) :
    (front ++ back.take size).take size = (front ++ back).take size := by
  rw [List.take_append, List.take_append, List.take_take, Nat.min_eq_left (Nat.sub_le _ _)]

/-- Extensions put their services in front, as far as the largest count goes. -/
theorem take_hops_foldl_extend (path : Path) (services : List UInt8) :
    (services.foldl extend path).hops.take maxHops =
      (services.reverse ++ path.hops).take maxHops := by
  induction services generalizing path with
  | nil => rfl
  | cons service rest ih =>
      calc ((service :: rest).foldl extend path).hops.take maxHops
          = (rest.reverse ++ (path.extend service).hops).take maxHops := ih _
        _ = (rest.reverse ++ (service :: path.hops)).take maxHops := by
            rw [hops_extend, take_append_take]
        _ = ((service :: rest).reverse ++ path.hops).take maxHops := by
            rw [List.reverse_cons, List.append_assoc, List.singleton_append]

/-- One extension is enough to make a record canonical. -/
theorem canonical_foldl_extend (path : Path) {services : List UInt8} (h : services ≠ []) :
    (services.foldl extend path).Canonical := by
  obtain ⟨earlier, last, rfl⟩ := (List.eq_nil_or_concat services).resolve_left h
  rw [List.concat_eq_append, List.foldl_append]
  exact canonical_extend _ _

/-- Services that extend a path one after the other come before its hops, the last one first. -/
theorem hops_foldl_extend (path : Path) {services : List UInt8} (h : services ≠ []) :
    (services.foldl extend path).hops = (services.reverse ++ path.hops).take maxHops := by
  have hcanonical := canonical_foldl_extend path h
  have hfits : (services.foldl extend path).hops.length ≤ maxHops := by
    rw [hcanonical.length_hops]
    exact hcanonical.le
  rw [← take_hops_foldl_extend, List.take_of_length_le hfits]

/-- **Extensions put their services in front.**  Let a record be extended by some services
in turn, at least one, whatever its count and its slots hold.  The hops are then the services,
newest first, and the hops before them, up to `maxHops`; the count says how many these are, and
the slots behind them are zero.  So the record that was extended matters by its hops alone. -/
theorem extensions_prepend_services (path : Path) {services : List UInt8} (h : services ≠ []) :
    let extended := services.foldl extend path
    let expected := (services.reverse ++ path.hops).take maxHops
    extended.hops = expected ∧ (∀ n, extended.hop? n = expected[n]?) ∧
      extended.count.toNat = expected.length ∧
      (∀ byte ∈ extended.slots.drop expected.length, byte = 0) ∧
      ∀ other : Path, other.hops = path.hops → services.foldl extend other = extended := by
  intro extended expected
  have hcanonical : extended.Canonical := canonical_foldl_extend path h
  have hhops : extended.hops = expected := hops_foldl_extend path h
  have hcount : extended.count.toNat = expected.length := by
    rw [← hhops, hcanonical.length_hops]
  refine ⟨hhops, fun n => ?_, hcount, ?_, fun other hsame => ?_⟩
  · rw [hop?_eq, hhops]
  · rw [← hcount]
    exact hcanonical.zeros
  · refine (canonical_foldl_extend other h).eq_of_hops_eq hcanonical ?_
    rw [hops_foldl_extend other h, hsame, hhops]

/-- A record that counts more hops than there are slots. -/
def overfull : Path := ⟨255, List.replicate pathSlots 9, List.length_replicate⟩

/-- Two services extend an overfull record: it counts `maxHops` hops, the two services first,
and its last slot is zero. -/
theorem extensions_prepend_services_overfull :
    let extended := [1, 2].foldl extend overfull
    extended.hops = 2 :: 1 :: List.replicate 97 9 ∧ extended.count = 99 ∧
      extended.slots[99]? = some 0 := by
  intro extended
  obtain ⟨hhops, -, hcount, -, -⟩ :=
    @extensions_prepend_services overfull [1, 2] (by decide)
  exact ⟨hhops.trans (by decide), UInt8.toNat_inj.mp (hcount.trans (by decide)), by decide⟩

end MeshTrace.Path

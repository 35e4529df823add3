import VhostServer.Device

/-!
# The guest memory map

`map_guest_region`, `unmap_guest_region`, `vhd_guest_memory_unmap_all`,
`map_uva` and `map_gpa_len` of `vdev.c`. Addresses are `uint64_t` and wrap as
the C arithmetic does; `hva = 0` is `NULL`. The page constants come from the
platform header, which is not among the sources; they are those of the 4 KiB
page the code is built for. `PAGE_SIZE` is taken to be an `unsigned long`, as
the usual definition `1UL << PAGE_SHIFT` makes it, so the length
`reg->pages * PAGE_SIZE` that `unmap_guest_region` passes to `munmap` is a
64-bit product. Were it an `int`, the product would be an `unsigned int` and
wrap at 4 GiB.

The mutating operations touch only the memory map and the effect log. That is
stated once, as `OnlyMemory`, and every invariant of the rest of the device
crosses them through it.
-/

namespace VhostServer

/-- `PAGE_SHIFT`. -/
def pageShift : UInt64 := 12

/-- `PAGE_SIZE`, an `unsigned long`: products with it are 64 bits wide. -/
def pageSize : UInt64 := 4096

/-- `VHD_IS_ALIGNED(value, alignment)` for a power-of-two alignment. -/
def vhdIsAligned (value alignment : UInt64) : Bool :=
  value &&& (alignment - 1) == 0

/-- `is_region_mapped`. -/
def isRegionMapped (reg : GuestMemoryRegion) : Bool := reg.hva != 0

/-- `region_size_bytes`: `(size_t)reg->pages << PAGE_SHIFT`. -/
def regionSizeBytes (reg : GuestMemoryRegion) : UInt64 :=
  reg.pages.toUInt64 <<< pageShift

/-! ## Address arithmetic

The 64-bit operations of the translations read on `Nat`, one lemma per
operation, so that a wrap-around is a `% 2 ^ 64` that `omega` can see. -/

theorem UInt64.toNat_add (a b : UInt64) : (a + b).toNat = (a.toNat + b.toNat) % 2 ^ 64 :=
  BitVec.toNat_add _ _

theorem UInt64.toNat_sub (a b : UInt64) :
    (a - b).toNat = (2 ^ 64 - b.toNat + a.toNat) % 2 ^ 64 :=
  BitVec.toNat_sub _ _

theorem UInt64.toNat_mul (a b : UInt64) : (a * b).toNat = a.toNat * b.toNat % 2 ^ 64 :=
  BitVec.toNat_mul _ _

theorem UInt64.le_iff_toNat_le {a b : UInt64} : a ≤ b ↔ a.toNat ≤ b.toNat := BitVec.le_def

theorem UInt64.lt_iff_toNat_lt {a b : UInt64} : a < b ↔ a.toNat < b.toNat := BitVec.lt_def

theorem UInt64.toNat_lt (a : UInt64) : a.toNat < 2 ^ 64 := a.toNat_lt_size

theorem UInt64.toNat_shiftRight_pageShift (a : UInt64) :
    (a >>> pageShift).toNat = a.toNat / 4096 := by
  show (a.toBitVec >>> (12 : BitVec 64)).toNat = _
  rw [BitVec.ushiftRight_eq', BitVec.toNat_ushiftRight, Nat.shiftRight_eq_div_pow]
  rfl

theorem UInt64.toNat_shiftLeft_pageShift (a : UInt64) :
    (a <<< pageShift).toNat = a.toNat * 4096 % 2 ^ 64 := by
  show (a.toBitVec <<< (12 : BitVec 64)).toNat = _
  rw [BitVec.shiftLeft_eq', BitVec.toNat_shiftLeft, Nat.shiftLeft_eq]
  rfl

theorem UInt64.toNat_toUInt32 (a : UInt64) : a.toUInt32.toNat = a.toNat % 2 ^ 32 := by
  show (UInt32.ofNat a.toNat).toNat = _
  simp [UInt32.toNat, UInt32.ofNat]

theorem UInt32.toNat_toUInt64 (a : UInt32) : a.toUInt64.toNat = a.toNat := rfl

theorem UInt32.toNat_lt (a : UInt32) : a.toNat < 2 ^ 32 := a.toNat_lt_size

theorem pageSize_toNat : pageSize.toNat = 4096 := rfl

/-- `VHD_IS_ALIGNED(value, PAGE_SIZE)` is divisibility by 4096. -/
theorem vhdIsAligned_pageSize (value : UInt64) :
    vhdIsAligned value pageSize = true ↔ value.toNat % 4096 = 0 := by
  have low : (value &&& (pageSize - 1)).toNat = value.toNat % 4096 := by
    rw [UInt64.and_toNat]
    exact Nat.and_pow_two_sub_one_eq_mod _ 12
  unfold vhdIsAligned
  rw [beq_iff_eq]
  constructor
  · intro aligned
    rw [← low, aligned]
    rfl
  · intro aligned
    apply UInt64.toNat.inj
    rw [low, aligned]
    rfl

/-- `region_size_bytes` never wraps: a 32-bit page count of 4 KiB pages stays
below `2 ^ 44` bytes. -/
theorem regionSizeBytes_toNat (reg : GuestMemoryRegion) :
    (regionSizeBytes reg).toNat = reg.pages.toNat * 4096 := by
  unfold regionSizeBytes
  rw [UInt64.toNat_shiftLeft_pageShift, UInt32.toNat_toUInt64]
  have := UInt32.toNat_lt reg.pages
  omega

namespace GuestMemoryMap

/-- The slot at `index`, as `&memmap->regions[index]` reads it. -/
def slot (map : GuestMemoryMap) (index : Nat) : GuestMemoryRegion :=
  map.regions.getD index default

/-- Overwrite the slot at `index`. -/
def set (map : GuestMemoryMap) (index : Nat) (reg : GuestMemoryRegion) : GuestMemoryMap :=
  ⟨map.regions.set index reg, by simp [map.length_regions]⟩

end GuestMemoryMap

namespace World

/-- Overwrite the guest memory slot at `index`. -/
def setRegion (w : World) (index : Nat) (reg : GuestMemoryRegion) : World :=
  { w with vdev.guestMemmap := w.vdev.guestMemmap.set index reg }

end World

/-- `map_guest_region`: map `fd` into slot `index`, or keep the slot's mapping
when the master resends the same `(gpa, pages)` and close the duplicate fd.
`mmapResult` answers the `mmap` call. -/
def mapGuestRegion (w : World) (index : Nat) (guestAddr userAddr size offset : UInt64)
    (fd : Int) (mmapResult : Except Errno MapAddr) : World × Int :=
  if vhostUserMemRegionsMax ≤ index then (w, EINVAL)
  else if !vhdIsAligned size pageSize then (w, EINVAL)
  else if !vhdIsAligned offset pageSize then (w, EINVAL)
  else
    let pages : UInt32 := (size >>> pageShift).toUInt32
    let region := w.vdev.guestMemmap.slot index
    if region.hva != 0 then
      if region.gpa == guestAddr && region.pages == pages then (w.close fd, 0)
      else (w, EBUSY)
    else
      let w := w.emit (.mmap fd size offset)
      match mmapResult with
      | .error errno => (w, errno.val)
      | .ok vaddr => (w.setRegion index ⟨guestAddr, userAddr, vaddr.addr, pages, fd⟩, 0)

/-- `unmap_guest_region` of the slot at `index`: unmap and close a live slot,
then zero it. -/
def unmapGuestRegion (w : World) (index : Nat) : World :=
  let reg := w.vdev.guestMemmap.slot index
  if isRegionMapped reg then
    ((w.emit (.munmap reg.hva (reg.pages.toUInt64 * pageSize))).close reg.fd).setRegion index
      default
  else w

/-- `vhd_guest_memory_unmap_all`. -/
def vhdGuestMemoryUnmapAll (w : World) : World :=
  (List.range vhostUserMemRegionsMax).foldl unmapGuestRegion w

/-- `map_uva`: the first live region whose master range holds `uva`. -/
def mapUva (map : GuestMemoryMap) (uva : UInt64) : UInt64 :=
  match map.regions.find? fun reg =>
      isRegionMapped reg && reg.uva ≤ uva && uva - reg.uva < regionSizeBytes reg with
  | some reg => reg.hva + (uva - reg.uva)
  | none => 0

/-- `map_gpa_len`: the first live region whose guest range holds `gpa`, if
`[gpa, gpa + len)` ends inside it. -/
def mapGpaLen (map : GuestMemoryMap) (gpa : UInt64) (len : UInt32) : UInt64 :=
  if len = 0 then 0
  else
    let lastGpa := gpa + len.toUInt64 - 1
    match map.regions.find? fun reg =>
        isRegionMapped reg && reg.gpa ≤ gpa && gpa - reg.gpa < regionSizeBytes reg with
    | some reg => if regionSizeBytes reg ≤ lastGpa - reg.gpa then 0 else reg.hva + (gpa - reg.gpa)
    | none => 0

/-! ## Frame -/

/-- `w'` differs from `w` at most in the guest memory map and the effect log. -/
structure OnlyMemory (w w' : World) : Prop where
  eq : w' = { w with vdev.guestMemmap := w'.vdev.guestMemmap, effects := w'.effects }

namespace OnlyMemory

theorem refl (w : World) : OnlyMemory w w := ⟨rfl⟩

theorem trans {w₁ w₂ w₃ : World} (h₁ : OnlyMemory w₁ w₂) (h₂ : OnlyMemory w₂ w₃) :
    OnlyMemory w₁ w₃ := by
  constructor
  rw [h₂.eq, h₁.eq]

theorem emit (w : World) (effect : Effect) : OnlyMemory w (w.emit effect) := ⟨rfl⟩

theorem setRegion (w : World) (index : Nat) (reg : GuestMemoryRegion) :
    OnlyMemory w (w.setRegion index reg) := ⟨rfl⟩

theorem vrings {w w' : World} (h : OnlyMemory w w') : w'.vdev.vrings = w.vdev.vrings := by
  rw [h.eq]

theorem state {w w' : World} (h : OnlyMemory w w') : w'.vdev.state = w.vdev.state := by
  rw [h.eq]

theorem vhostEvents {w w' : World} (h : OnlyMemory w w') : w'.vhostEvents = w.vhostEvents := by
  rw [h.eq]

theorem rqEvents {w w' : World} (h : OnlyMemory w w') : w'.rqEvents = w.rqEvents := by
  rw [h.eq]

end OnlyMemory

theorem unmapGuestRegion_onlyMemory (w : World) (index : Nat) :
    OnlyMemory w (unmapGuestRegion w index) := by
  unfold unmapGuestRegion
  dsimp only
  split_ifs
  · exact ((OnlyMemory.emit w _).trans (OnlyMemory.emit _ _)).trans (OnlyMemory.setRegion _ _ _)
  · exact OnlyMemory.refl w

theorem vhdGuestMemoryUnmapAll_onlyMemory (w : World) :
    OnlyMemory w (vhdGuestMemoryUnmapAll w) := by
  unfold vhdGuestMemoryUnmapAll
  generalize List.range vhostUserMemRegionsMax = indices
  induction indices generalizing w with
  | nil => exact OnlyMemory.refl w
  | cons index rest ih => exact (unmapGuestRegion_onlyMemory w index).trans (ih _)

/-! ## Unmapping every slot -/

/-- The slot at `index` holds no mapping. -/
def GuestMemoryMap.UnmappedAt (map : GuestMemoryMap) (index : Nat) : Prop :=
  isRegionMapped (map.slot index) = false

theorem GuestMemoryMap.slot_set (map : GuestMemoryMap) (index other : Nat)
    (reg : GuestMemoryRegion) :
    (map.set index reg).slot other =
      if index = other ∧ index < map.regions.length then reg else map.slot other := by
  simp only [slot, set, List.getD_eq_getElem?_getD, List.getElem?_set]
  by_cases same : index = other
  · subst same
    by_cases below : index < map.regions.length
    · simp [below]
    · simp [below, List.getElem?_eq_none (not_lt.1 below)]
  · simp [same]

theorem GuestMemoryMap.unmappedAt_of_length_le {map : GuestMemoryMap} {index : Nat}
    (beyond : map.regions.length ≤ index) : map.UnmappedAt index := by
  simp only [UnmappedAt, slot, List.getD_eq_getElem?_getD, List.getElem?_eq_none beyond]
  rfl

theorem unmapGuestRegion_unmappedAt (w : World) (index : Nat) :
    (unmapGuestRegion w index).vdev.guestMemmap.UnmappedAt index := by
  unfold unmapGuestRegion
  dsimp only
  split_ifs with mapped
  · by_cases below : index < w.vdev.guestMemmap.regions.length
    · simp only [GuestMemoryMap.UnmappedAt, World.setRegion, GuestMemoryMap.slot_set, true_and,
        World.close_eq, World.emit_vdev, if_pos below]
      rfl
    · exact GuestMemoryMap.unmappedAt_of_length_le
        (by simpa [World.setRegion, GuestMemoryMap.set] using not_lt.1 below)
  · simpa using mapped

theorem GuestMemoryMap.UnmappedAt.unmap {w : World} {index : Nat}
    (h : w.vdev.guestMemmap.UnmappedAt index) (other : Nat) :
    (unmapGuestRegion w other).vdev.guestMemmap.UnmappedAt index := by
  unfold unmapGuestRegion
  dsimp only
  split_ifs
  · unfold UnmappedAt at h ⊢
    simp only [World.setRegion, GuestMemoryMap.slot_set]
    split_ifs
    · rfl
    · exact h
  · exact h

theorem GuestMemoryMap.UnmappedAt.unmapAll {w : World} {index : Nat}
    (h : w.vdev.guestMemmap.UnmappedAt index) (indices : List Nat) :
    (indices.foldl unmapGuestRegion w).vdev.guestMemmap.UnmappedAt index := by
  induction indices generalizing w with
  | nil => exact h
  | cons first rest ih => exact ih (h.unmap first)

theorem foldl_unmapGuestRegion_unmappedAt (indices : List Nat) (w : World) :
    ∀ index ∈ indices,
      (indices.foldl unmapGuestRegion w).vdev.guestMemmap.UnmappedAt index := by
  induction indices generalizing w with
  | nil => intro index member; cases member
  | cons first rest ih =>
    intro index member
    rcases List.mem_cons.1 member with rfl | later
    · exact (unmapGuestRegion_unmappedAt w index).unmapAll rest
    · exact ih _ index later

theorem GuestMemoryMap.regions_unmapped {map : GuestMemoryMap}
    (h : ∀ index < vhostUserMemRegionsMax, map.UnmappedAt index) :
    ∀ reg ∈ map.regions, isRegionMapped reg = false := by
  intro reg member
  obtain ⟨index, found⟩ := List.mem_iff_getElem?.1 member
  have below := (List.getElem?_eq_some_iff.1 found).1
  rw [map.length_regions] at below
  simpa [UnmappedAt, slot, List.getD_eq_getElem?_getD, found] using h index below

/-- `vhd_guest_memory_unmap_all` leaves no slot mapped. -/
theorem vhdGuestMemoryUnmapAll_unmapped (w : World) :
    ∀ reg ∈ (vhdGuestMemoryUnmapAll w).vdev.guestMemmap.regions,
      isRegionMapped reg = false := by
  unfold vhdGuestMemoryUnmapAll
  exact GuestMemoryMap.regions_unmapped fun index below =>
    foldl_unmapGuestRegion_unmappedAt (List.range vhostUserMemRegionsMax) w index
      (List.mem_range.2 below)

/-! ## One mapping -/

/-- What `map_guest_region` can do: refuse with the world untouched; keep a
live slot the master resends with the same guest address and page count,
closing the duplicate fd; or call `mmap` for a free slot, which either fails
or fills the slot. -/
theorem mapGuestRegion_cases (w : World) (index : Nat) (guestAddr userAddr size offset : UInt64)
    (fd : Int) (mmapResult : Except Errno MapAddr) :
    ((mapGuestRegion w index guestAddr userAddr size offset fd mmapResult).1 = w ∧
        (mapGuestRegion w index guestAddr userAddr size offset fd mmapResult).2 ≠ 0) ∨
      (isRegionMapped (w.vdev.guestMemmap.slot index) = true ∧
        (w.vdev.guestMemmap.slot index).gpa = guestAddr ∧
        (w.vdev.guestMemmap.slot index).pages = (size >>> pageShift).toUInt32 ∧
        mapGuestRegion w index guestAddr userAddr size offset fd mmapResult = (w.close fd, 0)) ∨
      (isRegionMapped (w.vdev.guestMemmap.slot index) = false ∧
        ∃ errno, mmapResult = .error errno ∧
          mapGuestRegion w index guestAddr userAddr size offset fd mmapResult =
            (w.emit (.mmap fd size offset), errno.val)) ∨
      (isRegionMapped (w.vdev.guestMemmap.slot index) = false ∧
        index < vhostUserMemRegionsMax ∧ vhdIsAligned size pageSize = true ∧
        ∃ vaddr, mmapResult = .ok vaddr ∧
          mapGuestRegion w index guestAddr userAddr size offset fd mmapResult =
            ((w.emit (.mmap fd size offset)).setRegion index
              ⟨guestAddr, userAddr, vaddr.addr, (size >>> pageShift).toUInt32, fd⟩, 0)) := by
  have invalid : EINVAL ≠ 0 := by decide
  have busy : EBUSY ≠ 0 := by decide
  generalize result : mapGuestRegion w index guestAddr userAddr size offset fd mmapResult = r
  unfold mapGuestRegion at result
  dsimp only at result
  by_cases beyond : vhostUserMemRegionsMax ≤ index
  · rw [if_pos beyond] at result
    exact result ▸ .inl ⟨rfl, invalid⟩
  rw [if_neg beyond] at result
  by_cases misaligned : (!vhdIsAligned size pageSize) = true
  · rw [if_pos misaligned] at result
    exact result ▸ .inl ⟨rfl, invalid⟩
  rw [if_neg misaligned] at result
  by_cases misalignedOffset : (!vhdIsAligned offset pageSize) = true
  · rw [if_pos misalignedOffset] at result
    exact result ▸ .inl ⟨rfl, invalid⟩
  rw [if_neg misalignedOffset] at result
  by_cases live : (w.vdev.guestMemmap.slot index).hva != 0
  · rw [if_pos live] at result
    by_cases same : ((w.vdev.guestMemmap.slot index).gpa == guestAddr &&
        (w.vdev.guestMemmap.slot index).pages == (size >>> pageShift).toUInt32) = true
    · rw [if_pos same] at result
      simp only [Bool.and_eq_true, beq_iff_eq] at same
      exact .inr (.inl ⟨live, same.1, same.2, result.symm⟩)
    · rw [if_neg same] at result
      exact result ▸ .inl ⟨rfl, busy⟩
  rw [if_neg live] at result
  have free : isRegionMapped (w.vdev.guestMemmap.slot index) = false := by
    simpa [isRegionMapped] using live
  cases mmapResult with
  | error errno => exact .inr (.inr (.inl ⟨free, errno, rfl, result.symm⟩))
  | ok vaddr =>
    exact .inr (.inr (.inr
      ⟨free, not_le.1 beyond, by simpa using misaligned, vaddr, rfl, result.symm⟩))

theorem mapGuestRegion_onlyMemory (w : World) (index : Nat)
    (guestAddr userAddr size offset : UInt64) (fd : Int) (mmapResult : Except Errno MapAddr) :
    OnlyMemory w (mapGuestRegion w index guestAddr userAddr size offset fd mmapResult).1 := by
  rcases mapGuestRegion_cases w index guestAddr userAddr size offset fd mmapResult with
    ⟨refused, -⟩ | ⟨-, -, -, kept⟩ | ⟨-, _, -, failed⟩ | ⟨-, -, -, _, -, filled⟩
  · rw [refused]; exact .refl w
  · rw [kept]; exact .emit w _
  · rw [failed]; exact .emit w _
  · rw [filled]; exact (OnlyMemory.emit w _).trans (.setRegion _ _ _)

end VhostServer

import VhostServer.MemoryTable

/-!
# Translating guest addresses

`map_uva` and `map_gpa_len` look for the first live slot whose range holds an
address and add the offset to the slot's host address. A slot records its
length only as a 32-bit page count, and both lookups compute in 64 bits with
no overflow check.

`map_guest_region` keeps `size >> PAGE_SHIFT` in the 32-bit `pages`, so a slot
mapped with `2 ^ 44` bytes or more records a shorter length than its mapping
(`mapGuestRegion_recorded_size`). The lookups stay inside the mapping all the
same (`built_translations_within`): the length they compare against is never
more than what was mapped, and the offsets they compute never wrap.
`map_gpa_len` decides on the first live slot that contains the address, so a
range that only a later, overlapping slot covers is refused
(`mapGpaLen_first_covering`).
-/

namespace VhostServer

/-! ## The length a slot records -/

/-- The slot a successful `map_guest_region` fills. -/
theorem mapGuestRegion_of_free {w : World} {index : Nat} {guestAddr userAddr size offset : UInt64}
    {fd : Int} {vaddr : MapAddr} (below : index < vhostUserMemRegionsMax)
    (free : isRegionMapped (w.vdev.guestMemmap.slot index) = false)
    (alignedSize : vhdIsAligned size pageSize = true)
    (alignedOffset : vhdIsAligned offset pageSize = true) :
    mapGuestRegion w index guestAddr userAddr size offset fd (.ok vaddr) =
      ((w.emit (.mmap fd size offset)).setRegion index
        ⟨guestAddr, userAddr, vaddr.addr, (size >>> pageShift).toUInt32, fd⟩, 0) := by
  have unmapped : (w.vdev.guestMemmap.slot index).hva = 0 := by
    simpa [isRegionMapped] using free
  simp [mapGuestRegion, not_le.2 below, alignedSize, alignedOffset, unmapped]

theorem GuestMemoryMap.slot_set_self {map : GuestMemoryMap} {index : Nat}
    (below : index < vhostUserMemRegionsMax) (reg : GuestMemoryRegion) :
    (map.set index reg).slot index = reg := by
  rw [slot_set, if_pos ⟨rfl, map.length_regions ▸ below⟩]

/-- The length `unmap_guest_region` passes to `munmap`, `pages * PAGE_SIZE`,
is `region_size_bytes`. -/
theorem munmapLength_eq_regionSizeBytes (reg : GuestMemoryRegion) :
    reg.pages.toUInt64 * pageSize = regionSizeBytes reg := by
  apply UInt64.toNat.inj
  rw [UInt64.toNat_mul, UInt32.toNat_toUInt64, pageSize_toNat, regionSizeBytes_toNat]
  have := UInt32.toNat_lt reg.pages
  omega

/-- For every page-aligned size with which `map_guest_region` fills a free
slot, the slot's `region_size_bytes` is the mapped size exactly when the page
count fits the 32-bit `pages` field, that is below `2 ^ 44` bytes; the length
`unmap_guest_region` passes to `munmap` is `region_size_bytes` in every case. -/
theorem mapGuestRegion_recorded_size {w : World} {index : Nat}
    {guestAddr userAddr size offset : UInt64} {fd : Int} {vaddr : MapAddr}
    (below : index < vhostUserMemRegionsMax)
    (free : isRegionMapped (w.vdev.guestMemmap.slot index) = false)
    (alignedSize : vhdIsAligned size pageSize = true)
    (alignedOffset : vhdIsAligned offset pageSize = true) :
    let reg :=
      (mapGuestRegion w index guestAddr userAddr size offset fd (.ok vaddr)).1.vdev.guestMemmap.slot
        index
    isRegionMapped reg = true ∧ (regionSizeBytes reg = size ↔ size.toNat < 2 ^ 44) ∧
      reg.pages.toUInt64 * pageSize = regionSizeBytes reg := by
  intro reg
  have filled : reg = ⟨guestAddr, userAddr, vaddr.addr, (size >>> pageShift).toUInt32, fd⟩ := by
    simp only [reg, mapGuestRegion_of_free below free alignedSize alignedOffset, World.setRegion,
      World.emit_vdev, GuestMemoryMap.slot_set_self below]
  have pages : reg.pages.toNat = size.toNat / 4096 % 2 ^ 32 := by
    rw [filled, UInt64.toNat_toUInt32, UInt64.toNat_shiftRight_pageShift]
  have aligned := (vhdIsAligned_pageSize size).1 alignedSize
  have bounded := UInt64.toNat_lt size
  refine ⟨by simpa [filled, isRegionMapped] using vaddr.ne_zero, ⟨fun recorded => ?_, fun small => ?_⟩,
    munmapLength_eq_regionSizeBytes reg⟩
  · have := congrArg UInt64.toNat recorded
    rw [regionSizeBytes_toNat, pages] at this
    omega
  · apply UInt64.toNat.inj
    rw [regionSizeBytes_toNat, pages]
    omega

theorem mapGuestRegion_recorded_size_at_16TiB :
    0 < vhostUserMemRegionsMax ∧
      isRegionMapped (World.fresh.vdev.guestMemmap.slot 0) = false ∧
      vhdIsAligned 0x100000000000 pageSize = true ∧ vhdIsAligned 0 pageSize = true ∧
      let reg := (mapGuestRegion World.fresh 0 0 0x10000 0x100000000000 0 8
        (.ok ⟨0x100000, by decide⟩)).1.vdev.guestMemmap.slot 0
      isRegionMapped reg = true ∧
        (regionSizeBytes reg = 0x100000000000 ↔ (0x100000000000 : UInt64).toNat < 2 ^ 44) ∧
        reg.pages.toUInt64 * pageSize = regionSizeBytes reg :=
  ⟨by decide, by decide, by decide, by decide,
    mapGuestRegion_recorded_size (by decide) (by decide) (by decide) (by decide)⟩

/-! ## Maps built slot by slot -/

/-- Each live slot of `map` records the length its mapping was `mmap`ped with,
`sizes index`: the length is page aligned and the slot keeps its page count,
truncated to 32 bits. -/
def SizedBy (map : GuestMemoryMap) (sizes : Nat → UInt64) : Prop :=
  ∀ index, isRegionMapped (map.slot index) = true →
    vhdIsAligned (sizes index) pageSize = true ∧
      (map.slot index).pages = (sizes index >>> pageShift).toUInt32

/-- The guest memory maps `map_guest_region` and `unmap_guest_region` build
from a map with no live slot, each paired with the length every live slot was
`mmap`ped with. A slot that was free records the size of the call that filled
it; a slot that stays live keeps its length. -/
inductive MemoryBuilt : World → (Nat → UInt64) → Prop
  | unmapped {w : World} (sizes : Nat → UInt64)
      (none : ∀ reg ∈ w.vdev.guestMemmap.regions, isRegionMapped reg = false) :
      MemoryBuilt w sizes
  | map {w : World} {sizes : Nat → UInt64} (index : Nat) (guestAddr userAddr size offset : UInt64)
      (fd : Int) (mmapResult : Except Errno MapAddr) :
      MemoryBuilt w sizes →
      MemoryBuilt (mapGuestRegion w index guestAddr userAddr size offset fd mmapResult).1
        (if isRegionMapped (w.vdev.guestMemmap.slot index) then sizes
        else Function.update sizes index size)
  | unmap {w : World} {sizes : Nat → UInt64} (index : Nat) :
      MemoryBuilt w sizes → MemoryBuilt (unmapGuestRegion w index) sizes

theorem GuestMemoryMap.slot_unmapped {map : GuestMemoryMap}
    (none : ∀ reg ∈ map.regions, isRegionMapped reg = false) (index : Nat) :
    isRegionMapped (map.slot index) = false := by
  by_cases below : index < map.regions.length
  · exact none _ (by simp [slot, List.getD_eq_getElem?_getD, below])
  · exact unmappedAt_of_length_le (not_lt.1 below)

/-- Refusing or keeping a slot changes no slot, and a free slot that `mmap`
fills records the size of the call. -/
theorem SizedBy.mapGuestRegion {w : World} {sizes : Nat → UInt64}
    (h : SizedBy w.vdev.guestMemmap sizes) (index : Nat) (guestAddr userAddr size offset : UInt64)
    (fd : Int) (mmapResult : Except Errno MapAddr) :
    SizedBy (mapGuestRegion w index guestAddr userAddr size offset fd mmapResult).1.vdev.guestMemmap
      (if isRegionMapped (w.vdev.guestMemmap.slot index) then sizes
      else Function.update sizes index size) := by
  have updated : ∀ sizes', (∀ other, other ≠ index → sizes' other = sizes other) →
      isRegionMapped (w.vdev.guestMemmap.slot index) = false → SizedBy w.vdev.guestMemmap sizes' :=
    fun sizes' same free other live => by
      have moved : other ≠ index := fun eq => by rw [eq, free] at live; cases live
      rw [same other moved]
      exact h other live
  rcases mapGuestRegion_cases w index guestAddr userAddr size offset fd mmapResult with
    ⟨unchanged, -⟩ | ⟨live, -, -, kept⟩ | ⟨free, errno, -, failed⟩ | ⟨free, below, aligned, vaddr, -, filled⟩
  · rw [unchanged]
    split_ifs with live
    · exact h
    · exact updated _ (fun other moved => Function.update_noteq moved _ _) (by simpa using live)
  · rw [kept, if_pos live]
    exact h
  · rw [failed, if_neg (by simp [free])]
    exact updated _ (fun other moved => Function.update_noteq moved _ _) free
  · rw [filled, if_neg (by simp [free])]
    intro other live
    simp only [World.setRegion, World.emit_vdev, GuestMemoryMap.slot_set] at live ⊢
    split_ifs at live ⊢ with same
    · obtain ⟨rfl, -⟩ := same
      simp [aligned]
    · have moved : other ≠ index := fun eq => same ⟨eq.symm, by
        rw [w.vdev.guestMemmap.length_regions]; exact below⟩
      rw [Function.update_noteq moved]
      exact h other live

theorem SizedBy.unmapGuestRegion {w : World} {sizes : Nat → UInt64}
    (h : SizedBy w.vdev.guestMemmap sizes) (index : Nat) :
    SizedBy (unmapGuestRegion w index).vdev.guestMemmap sizes := by
  intro other live
  unfold VhostServer.unmapGuestRegion at live ⊢
  dsimp only at live ⊢
  split_ifs at live ⊢
  · simp only [World.setRegion, World.close_eq, World.emit_vdev, GuestMemoryMap.slot_set] at live ⊢
    split_ifs at live ⊢
    · cases live
    · exact h other live
  · exact h other live

theorem MemoryBuilt.sizedBy {w : World} {sizes : Nat → UInt64} (built : MemoryBuilt w sizes) :
    SizedBy w.vdev.guestMemmap sizes := by
  induction built with
  | unmapped sizes none =>
    intro index live
    rw [GuestMemoryMap.slot_unmapped none index] at live
    cases live
  | map index guestAddr userAddr size offset fd mmapResult _ ih =>
    exact ih.mapGuestRegion index guestAddr userAddr size offset fd mmapResult
  | unmap index _ ih => exact ih.unmapGuestRegion index

/-- A live slot's `region_size_bytes` is at most the length it was mapped
with. -/
theorem SizedBy.regionSizeBytes_le {map : GuestMemoryMap} {sizes : Nat → UInt64}
    (h : SizedBy map sizes) {index : Nat} (live : isRegionMapped (map.slot index) = true) :
    (regionSizeBytes (map.slot index)).toNat ≤ (sizes index).toNat := by
  obtain ⟨aligned, pages⟩ := h index live
  have aligned := (vhdIsAligned_pageSize _).1 aligned
  rw [regionSizeBytes_toNat, pages, UInt64.toNat_toUInt32, UInt64.toNat_shiftRight_pageShift]
  omega

/-! ## What the lookups return -/

theorem GuestMemoryMap.exists_slot_of_find? {map : GuestMemoryMap}
    {holds : GuestMemoryRegion → Bool} {reg : GuestMemoryRegion}
    (found : map.regions.find? holds = some reg) : ∃ index, map.slot index = reg ∧ holds reg = true := by
  obtain ⟨index, hit⟩ := List.mem_iff_getElem?.1 (List.mem_of_find?_eq_some found)
  exact ⟨index, by simp [slot, List.getD_eq_getElem?_getD, hit], List.find?_some found⟩

/-- A non-null `map_uva` is the first live slot whose master range holds
`uva`, offset into the slot's mapping. -/
theorem mapUva_ne_zero {map : GuestMemoryMap} {uva : UInt64} (found : mapUva map uva ≠ 0) :
    ∃ index, isRegionMapped (map.slot index) = true ∧ (map.slot index).uva ≤ uva ∧
      uva - (map.slot index).uva < regionSizeBytes (map.slot index) ∧
      mapUva map uva = (map.slot index).hva + (uva - (map.slot index).uva) := by
  unfold mapUva at found ⊢
  split at found
  · rename_i reg hit
    obtain ⟨index, rfl, holds⟩ := GuestMemoryMap.exists_slot_of_find? hit
    simp only [Bool.and_eq_true, decide_eq_true_eq] at holds
    exact ⟨index, holds.1.1, holds.1.2, holds.2, rfl⟩
  · exact absurd rfl found

/-- The length test of `map_gpa_len`, `last_gpa - reg->gpa >= region_size_bytes(reg)`
with `last_gpa = gpa + len - 1` computed modulo `2 ^ 64`, is the test over
unbounded naturals once `gpa` lies in the region: neither the sum nor the
differences wrap. -/
theorem lastGpa_test_iff {base gpa size : UInt64} {len : UInt32} (inside : base ≤ gpa)
    (within : gpa - base < size) (small : size.toNat < 2 ^ 44) (nonzero : len ≠ 0) :
    size ≤ gpa + len.toUInt64 - 1 - base ↔ base.toNat + size.toNat < gpa.toNat + len.toNat := by
  have positive : len.toNat ≠ 0 := fun zero => nonzero (UInt32.toNat.inj zero)
  have bounds := And.intro (UInt64.toNat_lt gpa) (UInt32.toNat_lt len)
  rw [UInt64.le_iff_toNat_le] at inside
  rw [UInt64.lt_iff_toNat_lt, UInt64.toNat_sub_of_le _ _ (UInt64.le_iff_toNat_le.2 inside)] at within
  rw [UInt64.le_iff_toNat_le, UInt64.toNat_sub, UInt64.toNat_sub, UInt64.toNat_add,
    UInt32.toNat_toUInt64, show (1 : UInt64).toNat = 1 from rfl]
  omega

/-- A non-null `map_gpa_len` is the first live slot whose guest range holds
`gpa`, offset into the slot's mapping, and the whole range `[gpa, gpa + len)`
fits in the slot's `region_size_bytes`. -/
theorem mapGpaLen_ne_zero {map : GuestMemoryMap} {gpa : UInt64} {len : UInt32}
    (found : mapGpaLen map gpa len ≠ 0) :
    ∃ index, isRegionMapped (map.slot index) = true ∧ (map.slot index).gpa ≤ gpa ∧
      (gpa - (map.slot index).gpa).toNat + len.toNat ≤ (regionSizeBytes (map.slot index)).toNat ∧
      mapGpaLen map gpa len = (map.slot index).hva + (gpa - (map.slot index).gpa) := by
  unfold mapGpaLen at found ⊢
  split_ifs at found ⊢ with empty
  · exact absurd rfl found
  · dsimp only at found ⊢
    split at found
    · rename_i reg hit
      obtain ⟨index, rfl, holds⟩ := GuestMemoryMap.exists_slot_of_find? hit
      simp only [Bool.and_eq_true, decide_eq_true_eq] at holds
      obtain ⟨⟨live, inside⟩, within⟩ := holds
      have small : (regionSizeBytes (map.slot index)).toNat < 2 ^ 44 := by
        rw [regionSizeBytes_toNat]
        have := UInt32.toNat_lt (map.slot index).pages
        omega
      split_ifs at found with test
      · exact absurd rfl found
      · refine ⟨index, live, inside, ?_, if_neg test⟩
        rw [lastGpa_test_iff inside within small empty] at test
        rw [UInt64.toNat_sub_of_le _ _ inside]
        have := UInt64.le_iff_toNat_le.1 inside
        omega
    · exact absurd rfl found

/-- Over every map built by `map_guest_region` and `unmap_guest_region`, a
non-null `map_uva` or `map_gpa_len` points into the mapping of a live slot:
the offset, and for `map_gpa_len` the whole range, lies within the length the
slot was `mmap`ped with, though the lookups compute in 64 bits unchecked. -/
theorem built_translations_within {w : World} {sizes : Nat → UInt64}
    (built : MemoryBuilt w sizes) (uva gpa : UInt64) (len : UInt32) :
    (mapUva w.vdev.guestMemmap uva ≠ 0 →
      ∃ index, isRegionMapped (w.vdev.guestMemmap.slot index) = true ∧
        (w.vdev.guestMemmap.slot index).uva ≤ uva ∧
        mapUva w.vdev.guestMemmap uva =
          (w.vdev.guestMemmap.slot index).hva + (uva - (w.vdev.guestMemmap.slot index).uva) ∧
        (uva - (w.vdev.guestMemmap.slot index).uva).toNat < (sizes index).toNat) ∧
    (mapGpaLen w.vdev.guestMemmap gpa len ≠ 0 →
      ∃ index, isRegionMapped (w.vdev.guestMemmap.slot index) = true ∧
        (w.vdev.guestMemmap.slot index).gpa ≤ gpa ∧
        mapGpaLen w.vdev.guestMemmap gpa len =
          (w.vdev.guestMemmap.slot index).hva + (gpa - (w.vdev.guestMemmap.slot index).gpa) ∧
        (gpa - (w.vdev.guestMemmap.slot index).gpa).toNat + len.toNat ≤ (sizes index).toNat) := by
  have sized := built.sizedBy
  constructor
  · intro found
    obtain ⟨index, live, inside, within, translated⟩ := mapUva_ne_zero found
    have mapped := sized.regionSizeBytes_le live
    rw [UInt64.lt_iff_toNat_lt] at within
    exact ⟨index, live, inside, translated, by omega⟩
  · intro found
    obtain ⟨index, live, inside, fits, translated⟩ := mapGpaLen_ne_zero found
    have mapped := sized.regionSizeBytes_le live
    exact ⟨index, live, inside, translated, by omega⟩

/-- Region 0 of `memTableAt 0` mapped into the fresh device, one page at
guest address 0. -/
def builtOnce : World :=
  (mapGuestRegion World.fresh 0 0 0x10000 0x1000 0 8 (.ok ⟨0x100000, by decide⟩)).1

/-- The length slot 0 of `builtOnce` was mapped with. -/
def builtOnceSizes : Nat → UInt64 := Function.update (fun _ => 0) 0 0x1000

theorem builtOnce_built : MemoryBuilt builtOnce builtOnceSizes := by
  have built := MemoryBuilt.map 0 0 0x10000 0x1000 0 8 (.ok ⟨0x100000, by decide⟩)
    (@MemoryBuilt.unmapped World.fresh (fun _ => 0) (by decide))
  rwa [if_neg (by decide)] at built

theorem builtOnce_translations_within :
    MemoryBuilt builtOnce builtOnceSizes ∧
      (mapUva builtOnce.vdev.guestMemmap 0x10010 ≠ 0 →
        ∃ index, isRegionMapped (builtOnce.vdev.guestMemmap.slot index) = true ∧
          (builtOnce.vdev.guestMemmap.slot index).uva ≤ 0x10010 ∧
          mapUva builtOnce.vdev.guestMemmap 0x10010 =
            (builtOnce.vdev.guestMemmap.slot index).hva +
              (0x10010 - (builtOnce.vdev.guestMemmap.slot index).uva) ∧
          (0x10010 - (builtOnce.vdev.guestMemmap.slot index).uva).toNat <
            (builtOnceSizes index).toNat) ∧
      (mapGpaLen builtOnce.vdev.guestMemmap 0x10 16 ≠ 0 →
        ∃ index, isRegionMapped (builtOnce.vdev.guestMemmap.slot index) = true ∧
          (builtOnce.vdev.guestMemmap.slot index).gpa ≤ 0x10 ∧
          mapGpaLen builtOnce.vdev.guestMemmap 0x10 16 =
            (builtOnce.vdev.guestMemmap.slot index).hva +
              (0x10 - (builtOnce.vdev.guestMemmap.slot index).gpa) ∧
          (0x10 - (builtOnce.vdev.guestMemmap.slot index).gpa).toNat + (16 : UInt32).toNat ≤
            (builtOnceSizes index).toNat) :=
  ⟨builtOnce_built, built_translations_within builtOnce_built 0x10010 0x10 16⟩

/-! ## The first slot decides -/

/-- The search of `map_gpa_len`: the first live slot whose guest range holds
`gpa`. -/
def GuestMemoryMap.regionOf (map : GuestMemoryMap) (gpa : UInt64) : Option GuestMemoryRegion :=
  map.regions.find? fun reg =>
    isRegionMapped reg && reg.gpa ≤ gpa && gpa - reg.gpa < regionSizeBytes reg

/-- `map_gpa_len` over every map, address and length: the first live slot
whose guest range holds `gpa` decides. If it covers `[gpa, gpa + len)` over
unbounded naturals, and `len` is not zero, the result is `gpa`'s offset into
that slot's mapping; otherwise `NULL`, whatever later slots cover. -/
theorem mapGpaLen_first_covering (map : GuestMemoryMap) (gpa : UInt64) (len : UInt32) :
    mapGpaLen map gpa len =
      match map.regionOf gpa with
      | some reg =>
        if 0 < len.toNat ∧ gpa.toNat + len.toNat ≤ reg.gpa.toNat + (regionSizeBytes reg).toNat then
          reg.hva + (gpa - reg.gpa)
        else 0
      | none => 0 := by
  unfold mapGpaLen GuestMemoryMap.regionOf
  by_cases empty : len = 0
  · subst empty
    rw [if_pos rfl]
    split <;> rfl
  · have positive : 0 < len.toNat := Nat.pos_of_ne_zero fun zero => empty (UInt32.toNat.inj zero)
    rw [if_neg empty]
    dsimp only
    cases hit : map.regions.find? fun reg =>
        isRegionMapped reg && reg.gpa ≤ gpa && gpa - reg.gpa < regionSizeBytes reg with
    | none => rfl
    | some reg =>
      have holds := List.find?_some hit
      simp only [Bool.and_eq_true, decide_eq_true_eq] at holds
      have small : (regionSizeBytes reg).toNat < 2 ^ 44 := by
        rw [regionSizeBytes_toNat]
        have := UInt32.toNat_lt reg.pages
        omega
      have test := lastGpa_test_iff holds.1.2 holds.2 small empty
      dsimp only
      by_cases covers : gpa.toNat + len.toNat ≤ reg.gpa.toNat + (regionSizeBytes reg).toNat
      · rw [if_neg (mt test.1 (by omega)), if_pos ⟨positive, covers⟩]
      · rw [if_pos (test.2 (by omega)), if_neg fun both => covers both.2]

/-- `SET_MEM_TABLE` with two overlapping regions at guest address 0: one page,
then two pages. -/
def overlappingTable : Msg :=
  { req := .setMemTable, flags := 1, size := 72,
    payload :=
      { (default : Payload) with
        memDesc := ⟨2, [⟨0, 0x1000, 0x10000, 0⟩, ⟨0, 0x2000, 0x20000, 0⟩]⟩ } }

/-- The first master maps the overlapping table. -/
def overlapMapped : World :=
  (connRead firstMaster (.whole overlappingTable (some [8, 9])) Env.calm).1

/-- The table is accepted and slot 1 covers the two pages from guest address
0, yet `map_gpa_len` refuses them: slot 0, the first to hold address 0, is
one page long. -/
theorem overlapMapped_refuses_covered_range :
    Reachable overlapMapped ∧
      (connRead firstMaster (.whole overlappingTable (some [8, 9])) Env.calm).2 = 0 ∧
      isRegionMapped (overlapMapped.vdev.guestMemmap.slot 1) = true ∧
      (overlapMapped.vdev.guestMemmap.slot 1).gpa = 0 ∧
      (regionSizeBytes (overlapMapped.vdev.guestMemmap.slot 1)).toNat = 0x2000 ∧
      mapGpaLen overlapMapped.vdev.guestMemmap 0 0x2000 = 0 :=
  ⟨reachable_fresh.serverRead Env.calm ⟨⟨3, .server⟩, by decide, rfl⟩ |>.connRead _ _
    ⟨⟨4, .conn⟩, by decide, rfl⟩, by decide, by decide, by decide, by decide, by decide⟩

/-! ## Consecutive tables

An accepted table fills slots `0..n-1` and leaves every other slot as it was;
a slot that already holds a region at the same guest address and page count is
kept whole, whatever user address the new table gives it. -/

/-- `SET_MEM_TABLE` with the page of `memTableAt 0`, now at user address
`0x20000`. -/
def memTableMoved : Msg :=
  { req := .setMemTable, flags := 1, size := 40,
    payload := { (default : Payload) with memDesc := ⟨1, [⟨0, 0x1000, 0x20000, 0⟩]⟩ } }

/-- `SET_MEM_TABLE` with no region. -/
def emptyTable : Msg :=
  { req := .setMemTable, flags := 1, size := 8,
    payload := { (default : Payload) with memDesc := ⟨0, []⟩ } }

/-- The first master maps guest page 0 at user address `0x10000`. -/
def tableMapped : World := (connRead firstMaster (.whole (memTableAt 0) (some [8])) Env.calm).1

/-- It then moves the page to user address `0x20000`. -/
def tableMoved : World := (connRead tableMapped (.whole memTableMoved (some [9])) Env.calm).1

/-- It then sends a table with no region. -/
def tableEmptied : World := (connRead tableMoved (.whole emptyTable none) Env.calm).1

/-- Both later tables are accepted, yet slot 0 keeps user address `0x10000`,
so the new one does not translate; and after the empty table slot 0 is still
live and still translates guest page 0. -/
theorem tableEmptied_keeps_stale_region :
    Reachable tableEmptied ∧
      (connRead tableMapped (.whole memTableMoved (some [9])) Env.calm).2 = 0 ∧
      (tableMoved.vdev.guestMemmap.slot 0).uva = 0x10000 ∧
      mapUva tableMoved.vdev.guestMemmap 0x20000 = 0 ∧
      (connRead tableMoved (.whole emptyTable none) Env.calm).2 = 0 ∧
      isRegionMapped (tableEmptied.vdev.guestMemmap.slot 0) = true ∧
      mapGpaLen tableEmptied.vdev.guestMemmap 0 0x1000 ≠ 0 :=
  ⟨(reachable_fresh.serverRead Env.calm ⟨⟨3, .server⟩, by decide, rfl⟩ |>.connRead _ _
      ⟨⟨4, .conn⟩, by decide, rfl⟩ |>.connRead _ _ ⟨⟨4, .conn⟩, by decide, rfl⟩).connRead _ _
      ⟨⟨4, .conn⟩, by decide, rfl⟩,
    by decide, by decide, by decide, by decide, by decide, by decide⟩

end VhostServer

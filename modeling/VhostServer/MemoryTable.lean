import VhostServer.Requests

/-!
# Guest memory under running vrings

A vring's virtqueue is attached to host addresses that `SET_VRING_ADDR`
translated through the memory table of the moment. Nothing ties the table's
lifetime to the vrings that use it: `vhost_set_mem_table` accepts a new table
while vrings run, and when mapping it fails it unmaps every region, whichever
vring still points into them (`vhostSetMemTable_of_failed`). A master that
resends region 0 at another guest address thus leaves a running vring
attached to unmapped memory.

A failed table stops at the first region `map_guest_region` refuses; its
calls unmap every slot it held or filled and close every descriptor, each once
(`vhostSetMemTable_failed_releases`). Each slot is unmapped with the length
`pages * PAGE_SIZE`, and `pages` keeps only 32 bits of the page count: a
region of `2 ^ 44` bytes or more is unmapped with less than it was mapped with
(with length 0 at exactly `2 ^ 44` bytes), and the rest of its mapping stays.

An accepted table is described slot by slot
(`vhostSetMemTable_accepted_slots`): a slot below the region count keeps a
resent mapping or takes the new one, and every slot above it keeps what it
held.
-/

namespace VhostServer

/-- Once a region fails to map, the loop of `vhost_set_mem_table` ends in
`vhd_guest_memory_unmap_all`. -/
theorem vhostSetMemTableLoop_of_failed (env : Env) (desc : MemDesc) (fds : List Int) :
    ∀ (remaining index : Nat) (w : World),
      (vhostSetMemTableLoop env desc fds remaining index w).2 ≠ 0 →
        ∃ closed,
          (vhostSetMemTableLoop env desc fds remaining index w).1 = vhdGuestMemoryUnmapAll closed
  | 0, _, _, failed => absurd rfl failed
  | remaining + 1, index, w, failed => by
    unfold vhostSetMemTableLoop at failed ⊢
    dsimp only at failed ⊢
    split_ifs at failed ⊢
    · dsimp only
      exact ⟨_, rfl⟩
    · exact vhostSetMemTableLoop_of_failed env desc fds remaining (index + 1) _ failed

/-- A `SET_MEM_TABLE` that fails after its region count was accepted unmaps
every guest region, and leaves every vring as it was, running or not. -/
theorem vhostSetMemTable_of_failed {w : World} {msg : Msg} {fds : List Int} {env : Env}
    (counted : msg.payload.memDesc.nregions.toNat ≤ vhostUserMemRegionsMax)
    (failed : (vhostSetMemTable w msg fds env).2 ≠ 0) :
    (vhostSetMemTable w msg fds env).1.vdev.vrings = w.vdev.vrings ∧
      ∀ reg ∈ (vhostSetMemTable w msg fds env).1.vdev.guestMemmap.regions,
        isRegionMapped reg = false := by
  refine ⟨(vhostSetMemTable_keepsVrings w msg fds env).vrings, ?_⟩
  unfold vhostSetMemTable at failed ⊢
  dsimp only at failed ⊢
  rw [if_neg (not_lt.2 counted)] at failed ⊢
  obtain ⟨closed, unmapped⟩ := vhostSetMemTableLoop_of_failed env _ fds _ 0 w failed
  rw [unmapped]
  exact vhdGuestMemoryUnmapAll_unmapped closed

/-! ## Remapping region 0 under a running vring -/

/-- `SET_MEM_TABLE` with one page-sized region at guest address `guestAddr`,
mapped by the master at `0x10000`. -/
def memTableAt (guestAddr : UInt64) : Msg :=
  { req := .setMemTable, flags := 1, size := 40,
    payload :=
      { (default : Payload) with memDesc := ⟨1, [⟨guestAddr, 0x1000, 0x10000, 0⟩]⟩ } }

/-- `SET_VRING_ADDR` for vring 0, with its rings inside the region. -/
def vringZeroAddr : Msg :=
  { req := .setVringAddr, flags := 1, size := 40,
    payload := { (default : Payload) with vringAddr := ⟨0, 0, 0x10000, 0x10800, 0x10400, 0⟩ } }

/-- The first master maps guest page 0, places vring 0 in it and kicks it. -/
def vringRunning : World :=
  let mapped := (connRead firstMaster (.whole (memTableAt 0) (some [8])) Env.calm).1
  let placed := (connRead mapped (.whole vringZeroAddr none) Env.calm).1
  (connRead placed (.whole kickVringZero (some [5])) Env.calm).1

theorem reachable_vringRunning : Reachable vringRunning :=
  let first := reachable_fresh.serverRead Env.calm ⟨⟨3, .server⟩, by decide, rfl⟩
  let mapped := first.connRead _ _ ⟨⟨4, .conn⟩, by decide, rfl⟩
  (mapped.connRead _ _ ⟨⟨4, .conn⟩, by decide, rfl⟩).connRead _ _
    ⟨⟨4, .conn⟩, by decide, rfl⟩

/-- The master then resends region 0 at guest address `0x1000`. -/
def remapRefused : World :=
  (connRead vringRunning (.whole (memTableAt 0x1000) (some [9])) Env.calm).1

/-- The resent table is refused with `EBUSY`, which unmaps every region, while
vring 0 keeps running with its descriptor table at host address `0x100000`. -/
theorem remapRefused_unmaps_running_vring :
    Reachable remapRefused ∧
      (connRead vringRunning (.whole (memTableAt 0x1000) (some [9])) Env.calm).2 = EBUSY ∧
      remapRefused.vdev.vrings.map
          (fun vring => (vring.isEnabled, vring.vq.attached.map (·.descAddr))) =
        [(true, some 0x100000)] ∧
      ∀ reg ∈ remapRefused.vdev.guestMemmap.regions, isRegionMapped reg = false :=
  ⟨reachable_vringRunning.connRead _ _ ⟨⟨4, .conn⟩, by decide, rfl⟩, by decide, by decide,
    by decide⟩

/-! ## What a failed table releases -/

/-- The descriptor a call closes. -/
def Effect.closedFd : Effect → Option Int
  | .close fd => some fd
  | _ => none

/-- The range a call unmaps, as `(address, length)`. -/
def Effect.unmappedRange : Effect → Option (UInt64 × UInt64)
  | .munmap addr length => some (addr, length)
  | _ => none

/-- The range `unmap_guest_region` unmaps for a live slot. -/
def GuestMemoryRegion.range (reg : GuestMemoryRegion) : UInt64 × UInt64 :=
  (reg.hva, reg.pages.toUInt64 * pageSize)

/-- The live slots of a world's guest memory map, in slot order. -/
def World.liveRegions (w : World) : List GuestMemoryRegion :=
  w.vdev.guestMemmap.regions.filter isRegionMapped

/-- The calls `unmap_guest_region` makes for a slot: unmap and close it if it
is live. -/
def slotRelease (reg : GuestMemoryRegion) : List Effect :=
  if isRegionMapped reg then [.munmap reg.hva (reg.pages.toUInt64 * pageSize), .close reg.fd]
  else []

theorem slotRelease_closedFd (regions : List GuestMemoryRegion) :
    (regions.flatMap slotRelease).filterMap Effect.closedFd =
      (regions.filter isRegionMapped).map (·.fd) := by
  induction regions with
  | nil => rfl
  | cons reg rest ih =>
    by_cases live : isRegionMapped reg <;> simp [slotRelease, live, ih, Effect.closedFd]

theorem slotRelease_unmappedRange (regions : List GuestMemoryRegion) :
    (regions.flatMap slotRelease).filterMap Effect.unmappedRange =
      (regions.filter isRegionMapped).map GuestMemoryRegion.range := by
  induction regions with
  | nil => rfl
  | cons reg rest ih =>
    by_cases live : isRegionMapped reg <;>
      simp [slotRelease, live, ih, Effect.unmappedRange, GuestMemoryRegion.range]

theorem unmapGuestRegion_effects (w : World) (index : Nat) :
    (unmapGuestRegion w index).effects = w.effects ++ slotRelease (w.vdev.guestMemmap.slot index) := by
  unfold unmapGuestRegion slotRelease
  dsimp only
  split_ifs <;> simp [World.setRegion]

theorem unmapGuestRegion_slot_of_ne (w : World) {index other : Nat} (moved : index ≠ other) :
    (unmapGuestRegion w index).vdev.guestMemmap.slot other = w.vdev.guestMemmap.slot other := by
  unfold unmapGuestRegion
  dsimp only
  split_ifs <;> simp [World.setRegion, GuestMemoryMap.slot_set, moved]

theorem foldl_unmapGuestRegion_effects (indices : List Nat) (nodup : indices.Nodup) (w : World) :
    (indices.foldl unmapGuestRegion w).effects =
      w.effects ++ indices.flatMap fun index => slotRelease (w.vdev.guestMemmap.slot index) := by
  induction indices generalizing w with
  | nil => simp
  | cons index rest ih =>
    obtain ⟨fresh, nodup⟩ := List.nodup_cons.1 nodup
    have kept : ∀ other ∈ rest, (unmapGuestRegion w index).vdev.guestMemmap.slot other =
        w.vdev.guestMemmap.slot other := fun other member =>
      unmapGuestRegion_slot_of_ne w fun same => fresh (same ▸ member)
    rw [List.foldl_cons, ih nodup, unmapGuestRegion_effects, List.flatMap_cons, List.append_assoc,
      List.flatMap_congr fun other member => congrArg slotRelease (kept other member)]

theorem GuestMemoryMap.range_map_slot (map : GuestMemoryMap) :
    (List.range vhostUserMemRegionsMax).map map.slot = map.regions := by
  apply List.ext_getElem (by simp [map.length_regions])
  intro index _ below
  simp [slot, List.getD_eq_getElem?_getD, List.getElem?_eq_getElem below]

/-- `vhd_guest_memory_unmap_all` unmaps and closes every live slot, once each,
in slot order. -/
theorem vhdGuestMemoryUnmapAll_effects (w : World) :
    (vhdGuestMemoryUnmapAll w).effects =
      w.effects ++ w.vdev.guestMemmap.regions.flatMap slotRelease := by
  unfold vhdGuestMemoryUnmapAll
  rw [foldl_unmapGuestRegion_effects _ (List.nodup_range _), ← List.flatMap_map,
    GuestMemoryMap.range_map_slot]

theorem closes_closedFd (fds : List Int) :
    (fds.map Effect.close).filterMap Effect.closedFd = fds := by
  induction fds with
  | nil => rfl
  | cons fd rest ih => simp [Effect.closedFd, ih]

theorem closes_unmappedRange (fds : List Int) :
    (fds.map Effect.close).filterMap Effect.unmappedRange = [] := by
  induction fds with
  | nil => rfl
  | cons fd rest ih => simp [Effect.unmappedRange, ih]

theorem closeFds_effects (w : World) (fds : List Int) :
    (closeFds w fds).effects = w.effects ++ fds.map Effect.close := by
  unfold closeFds
  induction fds generalizing w with
  | nil => simp
  | cons fd rest ih => simp [ih]

theorem closeFds_vdev (w : World) (fds : List Int) : (closeFds w fds).vdev = w.vdev := by
  unfold closeFds
  induction fds generalizing w with
  | nil => rfl
  | cons fd rest ih => exact ih _

/-- The error path of the loop of `vhost_set_mem_table`: closing `fds` and
unmapping every slot unmaps each live slot once, and closes `fds` and the
descriptor of each live slot once. -/
theorem unmapAll_closeFds_calls (w : World) (fds : List Int) :
    ∃ calls, (vhdGuestMemoryUnmapAll (closeFds w fds)).effects = w.effects ++ calls ∧
      calls.filterMap Effect.unmappedRange = w.liveRegions.map GuestMemoryRegion.range ∧
      calls.filterMap Effect.closedFd = fds ++ w.liveRegions.map (·.fd) :=
  ⟨_, by rw [vhdGuestMemoryUnmapAll_effects, closeFds_effects, closeFds_vdev, List.append_assoc],
    by rw [List.filterMap_append, closes_unmappedRange, slotRelease_unmappedRange]; rfl,
    by rw [List.filterMap_append, closes_closedFd, slotRelease_closedFd]; rfl⟩

/-- Overwriting a dead entry with a live one adds it to the live entries. -/
theorem filter_set_perm {α : Type} {live : α → Bool} {fresh : α} (alive : live fresh = true) :
    ∀ {entries : List α} {index : Nat} {old : α}, entries[index]? = some old → live old = false →
      List.Perm ((entries.set index fresh).filter live) (entries.filter live ++ [fresh])
  | [], _, _, hit, _ => by cases hit
  | entry :: rest, 0, old, hit, dead => by
    obtain rfl : entry = old := by simpa using hit
    simpa [List.filter_cons, dead, alive] using (List.perm_append_singleton fresh _).symm
  | entry :: rest, index + 1, old, hit, dead => by
    have later := filter_set_perm alive (show rest[index]? = some old by simpa using hit) dead
    by_cases kept : live entry
    · simpa [List.filter_cons, kept] using later.cons entry
    · simpa [List.filter_cons, kept] using later

/-- The slot `map_guest_region` fills for region `index` of `desc` when `mmap`
maps it at `vaddr`. -/
def MemDesc.storedAt (desc : MemDesc) (fds : List Int) (index : Nat) (vaddr : MapAddr) :
    GuestMemoryRegion :=
  ⟨(desc.regions.getD index default).guestAddr, (desc.regions.getD index default).userAddr,
    vaddr.addr, ((desc.regions.getD index default).size >>> pageShift).toUInt32,
    fds.getD index (-1)⟩

/-- What `map_guest_region` stores in slot `index` for region `index` of
`desc` when `mmap` maps it. -/
def MemDesc.Stores (desc : MemDesc) (fds : List Int) (env : Env) (index : Nat)
    (reg : GuestMemoryRegion) : Prop :=
  ∃ vaddr, env.mmapRegion index = .ok vaddr ∧ reg = desc.storedAt fds index vaddr

/-- Whether `map_guest_region` refuses region `index` of `desc` over the slots
of `w`: the loop of `vhost_set_mem_table` stops at the first such region. -/
def MemDesc.refused (desc : MemDesc) (fds : List Int) (env : Env) (w : World) (index : Nat) :
    Bool :=
  (mapGuestRegion w index (desc.regions.getD index default).guestAddr
    (desc.regions.getD index default).userAddr (desc.regions.getD index default).size
    (desc.regions.getD index default).mmapOffset (fds.getD index (-1))
    (env.mmapRegion index)).2 != 0

/-- The slots the loop of `vhost_set_mem_table` fills for the regions from
`start` up to `failing`, given the slots of `w`: each region whose slot is
free and whose `mmap` succeeds, at the address `mmap` returned. -/
def MemDesc.mappedBetween (desc : MemDesc) (fds : List Int) (env : Env) (w : World)
    (start failing : Nat) : List GuestMemoryRegion :=
  (List.range' start (failing - start)).filterMap fun index =>
    if isRegionMapped (w.vdev.guestMemmap.slot index) then none
    else (env.mmapRegion index).toOption.map (desc.storedAt fds index)

/-- `map_guest_region`'s status reads only the slot it is asked to fill. -/
theorem mapGuestRegion_status_congr {w w' : World} {index : Nat}
    (same : w'.vdev.guestMemmap.slot index = w.vdev.guestMemmap.slot index)
    (guestAddr userAddr size offset : UInt64) (fd : Int) (mmapResult : Except Errno MapAddr) :
    (mapGuestRegion w' index guestAddr userAddr size offset fd mmapResult).2 =
      (mapGuestRegion w index guestAddr userAddr size offset fd mmapResult).2 := by
  simp only [mapGuestRegion, same, apply_ite Prod.snd]
  cases mmapResult <;> rfl

section Slots

variable {desc : MemDesc} {fds : List Int} {env : Env} {w w' : World}

theorem MemDesc.refused_congr {index : Nat}
    (same : w'.vdev.guestMemmap.slot index = w.vdev.guestMemmap.slot index) :
    desc.refused fds env w' index = desc.refused fds env w index := by
  unfold MemDesc.refused
  rw [mapGuestRegion_status_congr same]

/-- Region `index` accepted over `w`, and the regions after it accepted over
slots that agree with those of `w` past `index`: every region from `index` on
is accepted over `w`. -/
theorem MemDesc.accepted_cons {index failing : Nat}
    (same : ∀ other, index < other →
      w'.vdev.guestMemmap.slot other = w.vdev.guestMemmap.slot other)
    (here : desc.refused fds env w index = false)
    (later : ∀ other, index + 1 ≤ other → other < failing →
      desc.refused fds env w' other = false) :
    ∀ other, index ≤ other → other < failing → desc.refused fds env w other = false := by
  intro other low high
  rcases Nat.eq_or_lt_of_le low with rfl | after
  · exact here
  · exact (refused_congr (same other after)).symm.trans (later other after high)

theorem MemDesc.mappedBetween_congr {start : Nat}
    (same : ∀ index, start ≤ index →
      w'.vdev.guestMemmap.slot index = w.vdev.guestMemmap.slot index) (failing : Nat) :
    desc.mappedBetween fds env w' start failing = desc.mappedBetween fds env w start failing :=
  List.filterMap_congr fun index member => by
    rw [same index (List.mem_range'_1.1 member).1]

@[simp] theorem MemDesc.mappedBetween_self (index : Nat) :
    desc.mappedBetween fds env w index index = [] := by
  simp [MemDesc.mappedBetween]

theorem MemDesc.mappedBetween_succ {index failing : Nat} (before : index < failing) :
    desc.mappedBetween fds env w index failing =
      (if isRegionMapped (w.vdev.guestMemmap.slot index) then none
        else (env.mmapRegion index).toOption.map (desc.storedAt fds index)).toList ++
      desc.mappedBetween fds env w (index + 1) failing := by
  unfold MemDesc.mappedBetween
  rw [show failing - index = failing - (index + 1) + 1 by omega, List.range'_succ,
    List.filterMap_cons]
  generalize (if isRegionMapped (w.vdev.guestMemmap.slot index) then none
    else (env.mmapRegion index).toOption.map (desc.storedAt fds index)) = head
  cases head <;> rfl

theorem MemDesc.mem_mappedBetween {start failing index : Nat} {vaddr : MapAddr}
    (low : start ≤ index) (high : index < failing)
    (free : isRegionMapped (w.vdev.guestMemmap.slot index) = false)
    (hit : env.mmapRegion index = .ok vaddr) :
    desc.storedAt fds index vaddr ∈ desc.mappedBetween fds env w start failing :=
  List.mem_filterMap.2 ⟨index, List.mem_range'_1.2 ⟨low, by omega⟩,
    by simp [free, hit, Except.toOption]⟩

theorem MemDesc.of_mem_mappedBetween {start failing : Nat} {reg : GuestMemoryRegion}
    (member : reg ∈ desc.mappedBetween fds env w start failing) :
    ∃ index, start ≤ index ∧ index < failing ∧
      isRegionMapped (w.vdev.guestMemmap.slot index) = false ∧
      ∃ vaddr, env.mmapRegion index = .ok vaddr ∧ reg = desc.storedAt fds index vaddr := by
  obtain ⟨index, range, stored⟩ := List.mem_filterMap.1 member
  rw [List.mem_range'_1] at range
  by_cases live : isRegionMapped (w.vdev.guestMemmap.slot index)
  · simp [live] at stored
  · cases hit : env.mmapRegion index with
    | error errno => simp [live, hit, Except.toOption] at stored
    | ok vaddr =>
      simp only [live, hit, Except.toOption, Option.map_some', Bool.false_eq_true, ite_false,
        Option.some.injEq] at stored
      exact ⟨index, range.1, by omega, by simpa using live, vaddr, hit, stored.symm⟩

end Slots

/-- The length `unmap_guest_region` computes for a slot filled from a
page-aligned size is that size exactly when its page count fits the 32-bit
`pages` field, that is below `2 ^ 44` bytes. -/
theorem pages_mul_pageSize_eq_iff {size : UInt64} (aligned : vhdIsAligned size pageSize = true) :
    (size >>> pageShift).toUInt32.toUInt64 * pageSize = size ↔ size.toNat < 2 ^ 44 := by
  have multiple := (vhdIsAligned_pageSize size).1 aligned
  have bounded := UInt64.toNat_lt size
  have length : ((size >>> pageShift).toUInt32.toUInt64 * pageSize).toNat =
      size.toNat / 4096 % 2 ^ 32 * 4096 := by
    rw [UInt64.toNat_mul, UInt32.toNat_toUInt64, UInt64.toNat_toUInt32,
      UInt64.toNat_shiftRight_pageShift, pageSize_toNat]
    omega
  constructor
  · intro same
    have := congrArg UInt64.toNat same
    omega
  · intro small
    apply UInt64.toNat.inj
    omega

theorem MemDesc.storedAt_range (desc : MemDesc) (fds : List Int) (index : Nat) (vaddr : MapAddr)
    (aligned : vhdIsAligned (desc.regions.getD index default).size pageSize = true) :
    (desc.storedAt fds index vaddr).range = (vaddr.addr, (desc.regions.getD index default).size) ↔
      (desc.regions.getD index default).size.toNat < 2 ^ 44 := by
  simp only [MemDesc.storedAt, GuestMemoryRegion.range, Prod.mk.injEq, true_and]
  exact pages_mul_pageSize_eq_iff aligned

theorem liveRegions_setRegion {w : World} {index : Nat} {reg : GuestMemoryRegion}
    (below : index < vhostUserMemRegionsMax)
    (free : isRegionMapped (w.vdev.guestMemmap.slot index) = false)
    (live : isRegionMapped reg = true) :
    List.Perm (w.setRegion index reg).liveRegions (w.liveRegions ++ [reg]) := by
  have inRange : index < w.vdev.guestMemmap.regions.length := by
    rw [w.vdev.guestMemmap.length_regions]
    exact below
  have hit : w.vdev.guestMemmap.regions[index]? = some (w.vdev.guestMemmap.slot index) := by
    simp [GuestMemoryMap.slot, List.getD_eq_getElem?_getD, List.getElem?_eq_getElem inRange]
  exact filter_set_perm live hit free

/-- Overwriting slot `index` keeps every other slot. -/
theorem World.setRegion_slot_of_ne (w : World) {index other : Nat} (moved : index ≠ other)
    (reg : GuestMemoryRegion) :
    (w.setRegion index reg).vdev.guestMemmap.slot other = w.vdev.guestMemmap.slot other := by
  simp [World.setRegion, GuestMemoryMap.slot_set, moved]

/-- The loop of `vhost_set_mem_table` from region `index`, when it fails: it
stops at the first region `map_guest_region` refuses; every slot live at its
start, and every slot it filled, is unmapped once; each region it filled was
`mmap`ped from a page-aligned size; and the descriptors it closes are those of
the regions from `index` on, each once, together with those of the slots live
at its start. -/
theorem vhostSetMemTableLoop_failed_calls (env : Env) (desc : MemDesc) (fds : List Int) :
    ∀ (remaining index : Nat) (w : World),
      (vhostSetMemTableLoop env desc fds remaining index w).2 ≠ 0 →
      ∃ failing, index ≤ failing ∧ failing < index + remaining ∧
        desc.refused fds env w failing = true ∧
        (∀ other, index ≤ other → other < failing →
          desc.refused fds env w other = false) ∧
        ∃ calls,
          (vhostSetMemTableLoop env desc fds remaining index w).1.effects = w.effects ++ calls ∧
          List.Perm (calls.filterMap Effect.unmappedRange)
            ((w.liveRegions ++ desc.mappedBetween fds env w index failing).map
              GuestMemoryRegion.range) ∧
          List.Perm (calls.filterMap Effect.closedFd)
            ((List.range' index remaining).map (fds.getD · (-1)) ++ w.liveRegions.map (·.fd)) ∧
          ∀ other, index ≤ other → other < failing →
            isRegionMapped (w.vdev.guestMemmap.slot other) = false →
            vhdIsAligned (desc.regions.getD other default).size pageSize = true ∧
            (∃ vaddr, env.mmapRegion other = .ok vaddr) ∧
            .mmap (fds.getD other (-1)) (desc.regions.getD other default).size
              (desc.regions.getD other default).mmapOffset ∈ calls := by
  intro remaining
  induction remaining with
  | zero => exact fun _ _ failed => absurd rfl failed
  | succ remaining ih =>
    intro index w failed
    have cases := mapGuestRegion_cases w index (desc.regions.getD index default).guestAddr
      (desc.regions.getD index default).userAddr (desc.regions.getD index default).size
      (desc.regions.getD index default).mmapOffset (fds.getD index (-1)) (env.mmapRegion index)
    have status : desc.refused fds env w index = ((mapGuestRegion w index
      (desc.regions.getD index default).guestAddr (desc.regions.getD index default).userAddr
      (desc.regions.getD index default).size (desc.regions.getD index default).mmapOffset
      (fds.getD index (-1)) (env.mmapRegion index)).2 != 0) := rfl
    unfold vhostSetMemTableLoop at failed ⊢
    dsimp only at failed ⊢
    generalize mapGuestRegion w index (desc.regions.getD index default).guestAddr
      (desc.regions.getD index default).userAddr (desc.regions.getD index default).size
      (desc.regions.getD index default).mmapOffset (fds.getD index (-1)) (env.mmapRegion index) =
      mapped at cases failed status ⊢
    rcases cases with ⟨unchanged, refused⟩ | ⟨live, -, -, rfl⟩ | ⟨-, errno, -, rfl⟩ |
      ⟨free, below, aligned, vaddr, hit, rfl⟩
    · rw [if_pos (by simpa using refused), unchanged]
      obtain ⟨calls, effects, unmapped, closed⟩ := unmapAll_closeFds_calls w
        ((List.range' index (remaining + 1)).map (fds.getD · (-1)))
      exact ⟨index, le_refl _, by omega, by simpa [status] using refused, fun _ _ _ => by omega,
        calls, effects, .of_eq (by rw [unmapped, MemDesc.mappedBetween_self, List.append_nil]),
        .of_eq closed, fun _ _ _ => by omega⟩
    · simp only [bne_self_eq_false, Bool.false_eq_true, ite_false] at failed ⊢
      obtain ⟨failing, after, before, refusedAt, accepted, calls, effects, unmapped, closed,
        mmaps⟩ := ih (index + 1) _ failed
      have same : ∀ other, index < other →
          (w.close (fds.getD index (-1))).vdev.guestMemmap.slot other =
            w.vdev.guestMemmap.slot other := fun _ _ => rfl
      refine ⟨failing, by omega, by omega,
        (MemDesc.refused_congr (same failing after)).symm.trans refusedAt,
        MemDesc.accepted_cons same (by rw [status]; rfl) accepted,
        .close (fds.getD index (-1)) :: calls,
        by rw [effects, World.close_eq, World.emit_effects, List.append_assoc]; rfl, ?_,
        closed.cons _, fun other low high free => ?_⟩
      · rw [MemDesc.mappedBetween_succ (by omega), if_pos live, Option.toList_none,
          List.nil_append, ← MemDesc.mappedBetween_congr same]
        exact unmapped
      · rcases Nat.eq_or_lt_of_le low with rfl | later
        · exact absurd free (by simp [live])
        · obtain ⟨aligned, hit, called⟩ := mmaps other later high free
          exact ⟨aligned, hit, List.mem_cons_of_mem _ called⟩
    · have failing : errno.val ≠ 0 := Int.ne_of_gt errno.pos
      rw [if_pos (by simpa using failing)]
      obtain ⟨calls, effects, unmapped, closed⟩ := unmapAll_closeFds_calls (w.emit _)
        ((List.range' index (remaining + 1)).map (fds.getD · (-1)))
      refine ⟨index, le_refl _, by omega, by simpa [status] using failing, fun _ _ _ => by omega,
        .mmap (fds.getD index (-1)) (desc.regions.getD index default).size
          (desc.regions.getD index default).mmapOffset :: calls,
        by rw [effects, World.emit_effects, List.append_assoc]; rfl,
        .of_eq (by rw [MemDesc.mappedBetween_self, List.append_nil]; exact unmapped),
        .of_eq closed, fun _ _ _ => by omega⟩
    · simp only [bne_self_eq_false, Bool.false_eq_true, ite_false] at failed ⊢
      generalize filled : (⟨(desc.regions.getD index default).guestAddr,
        (desc.regions.getD index default).userAddr, vaddr.addr,
        ((desc.regions.getD index default).size >>> pageShift).toUInt32,
        fds.getD index (-1)⟩ : GuestMemoryRegion) = reg at failed ⊢
      obtain ⟨failing, after, before, refusedAt, accepted, calls, effects, unmapped, closed,
        mmaps⟩ := ih (index + 1) _ failed
      have same : ∀ other, index < other →
          ((w.emit (.mmap (fds.getD index (-1)) (desc.regions.getD index default).size
            (desc.regions.getD index default).mmapOffset)).setRegion index
              reg).vdev.guestMemmap.slot other = w.vdev.guestMemmap.slot other :=
        fun other later => by
          rw [World.setRegion_slot_of_ne _ (Nat.ne_of_lt later), World.emit_vdev]
      have live := @liveRegions_setRegion (w.emit (.mmap (fds.getD index (-1))
        (desc.regions.getD index default).size (desc.regions.getD index default).mmapOffset))
        index reg below free (by simpa [← filled, isRegionMapped] using vaddr.ne_zero)
      refine ⟨failing, by omega, by omega,
        (MemDesc.refused_congr (same failing after)).symm.trans refusedAt,
        MemDesc.accepted_cons same (by rw [status]; rfl) accepted,
        .mmap (fds.getD index (-1)) (desc.regions.getD index default).size
          (desc.regions.getD index default).mmapOffset :: calls,
        by rw [effects]; simp [World.setRegion], ?_, ?_, fun other low high free' => ?_⟩
      · rw [MemDesc.mappedBetween_congr same] at unmapped
        rw [MemDesc.mappedBetween_succ (by omega), if_neg (by simp [free]), hit]
        simp only [List.filterMap_cons, Effect.unmappedRange]
        refine unmapped.trans (List.Perm.map _ ?_)
        simpa [Except.toOption, ← filled, MemDesc.storedAt] using
          live.append_right (desc.mappedBetween fds env w (index + 1) failing)
      · simp only [List.filterMap_cons, Effect.closedFd, List.range'_succ, List.map_cons]
        refine closed.trans ?_
        have moved := (live.map (·.fd)).append_left
          ((List.range' (index + 1) remaining).map (fds.getD · (-1)))
        refine moved.trans ?_
        rw [← filled, List.map_append, List.map_singleton]
        exact ((List.perm_append_singleton _ _).append_left _).trans List.perm_middle
      · rcases Nat.eq_or_lt_of_le low with rfl | later
        · exact ⟨aligned, ⟨vaddr, hit⟩, List.mem_cons_self _ _⟩
        · obtain ⟨aligned, hit, called⟩ :=
            mmaps other later high (by rw [same other later]; exact free')
          exact ⟨aligned, hit, List.mem_cons_of_mem _ called⟩

/-- A `SET_MEM_TABLE` that fails after its region count was accepted leaves no
slot live. It stops at the first region `map_guest_region` refuses, and the
calls it makes unmap every slot live before it and every slot it filled, once
each, and close each of the message's descriptors and the descriptor of each
slot live before it, once each. The slots it filled are those of the regions
before the refused one whose slot was free, each `mmap`ped with success. Each
was `mmap`ped with its region's size, and is unmapped with that length exactly
when the size is below `2 ^ 44` bytes: from there the 32-bit page count wraps,
and `munmap` releases less than was mapped. -/
theorem vhostSetMemTable_failed_releases {w : World} {msg : Msg} {fds : List Int} {env : Env}
    (counted : msg.payload.memDesc.nregions.toNat ≤ vhostUserMemRegionsMax)
    (failed : (vhostSetMemTable w msg fds env).2 ≠ 0) :
    let desc := msg.payload.memDesc
    (∀ reg ∈ (vhostSetMemTable w msg fds env).1.vdev.guestMemmap.regions,
      isRegionMapped reg = false) ∧
    ∃ failing < desc.nregions.toNat, desc.refused fds env w failing = true ∧
      (∀ other < failing, desc.refused fds env w other = false) ∧
      ∃ calls,
        (vhostSetMemTable w msg fds env).1.effects = w.effects ++ calls ∧
        List.Perm (calls.filterMap Effect.unmappedRange)
          ((w.liveRegions ++ desc.mappedBetween fds env w 0 failing).map
            GuestMemoryRegion.range) ∧
        List.Perm (calls.filterMap Effect.closedFd)
          ((List.range desc.nregions.toNat).map (fds.getD · (-1)) ++ w.liveRegions.map (·.fd)) ∧
        (∀ index < failing, isRegionMapped (w.vdev.guestMemmap.slot index) = false →
          ∃ vaddr, env.mmapRegion index = .ok vaddr ∧
            desc.storedAt fds index vaddr ∈ desc.mappedBetween fds env w 0 failing) ∧
        ∀ reg ∈ desc.mappedBetween fds env w 0 failing, ∃ index < failing, ∃ vaddr,
          env.mmapRegion index = .ok vaddr ∧ reg = desc.storedAt fds index vaddr ∧
          .mmap (fds.getD index (-1)) (desc.regions.getD index default).size
            (desc.regions.getD index default).mmapOffset ∈ calls ∧
          (reg.range = (vaddr.addr, (desc.regions.getD index default).size) ↔
            (desc.regions.getD index default).size.toNat < 2 ^ 44) := by
  dsimp only
  refine ⟨(vhostSetMemTable_of_failed counted failed).2, ?_⟩
  unfold vhostSetMemTable at failed ⊢
  dsimp only at failed ⊢
  rw [if_neg (not_lt.2 counted)] at failed ⊢
  obtain ⟨failing, -, below, refusedAt, accepted, calls, effects, unmapped, closed, mmaps⟩ :=
    vhostSetMemTableLoop_failed_calls env _ fds _ 0 w failed
  refine ⟨failing, by omega, refusedAt, fun other => accepted other (Nat.zero_le _), calls,
    effects, unmapped, by rwa [List.range_eq_range'], fun index before free => ?_,
    fun reg member => ?_⟩
  · obtain ⟨-, ⟨vaddr, hit⟩, -⟩ := mmaps index (Nat.zero_le _) before free
    exact ⟨vaddr, hit, MemDesc.mem_mappedBetween (Nat.zero_le _) before free hit⟩
  obtain ⟨index, -, before, free, vaddr, hit, rfl⟩ := MemDesc.of_mem_mappedBetween member
  obtain ⟨aligned, -, called⟩ := mmaps index (Nat.zero_le _) before free
  exact ⟨index, before, vaddr, hit, rfl, called,
    MemDesc.storedAt_range _ fds index vaddr aligned⟩

/-- `SET_MEM_TABLE` whose region 0 maps 16 TiB at guest address 0 and whose
region 1 is not page aligned. -/
def hugeTable : Msg :=
  { req := .setMemTable, flags := 1, size := 72,
    payload := { (default : Payload) with
      memDesc :=
        ⟨2, [⟨0, 0x100000000000, 0x10000, 0⟩, ⟨0x100000000000, 0x800, 0x10000, 0⟩]⟩ } }

/-- Region 0 is `mmap`ped with 16 TiB; when region 1 is refused, `munmap`
releases it with length 0. -/
theorem hugeTable_failed_releases :
    (vhostSetMemTable World.fresh hugeTable [8, 9] Env.calm).1.effects =
      [.mmap 8 0x100000000000 0, .close 9, .munmap 0x100000 0, .close 8] ∧
    hugeTable.payload.memDesc.nregions.toNat ≤ vhostUserMemRegionsMax ∧
    (vhostSetMemTable World.fresh hugeTable [8, 9] Env.calm).2 ≠ 0 ∧
    let desc := hugeTable.payload.memDesc
    (∀ reg ∈
        (vhostSetMemTable World.fresh hugeTable [8, 9] Env.calm).1.vdev.guestMemmap.regions,
      isRegionMapped reg = false) ∧
    ∃ failing < desc.nregions.toNat, desc.refused [8, 9] Env.calm World.fresh failing = true ∧
      (∀ other < failing, desc.refused [8, 9] Env.calm World.fresh other = false) ∧
      ∃ calls,
        (vhostSetMemTable World.fresh hugeTable [8, 9] Env.calm).1.effects =
          World.fresh.effects ++ calls ∧
        List.Perm (calls.filterMap Effect.unmappedRange)
          ((World.fresh.liveRegions ++ desc.mappedBetween [8, 9] Env.calm World.fresh 0 failing).map
            GuestMemoryRegion.range) ∧
        List.Perm (calls.filterMap Effect.closedFd)
          ((List.range desc.nregions.toNat).map ([8, 9].getD · (-1)) ++
            World.fresh.liveRegions.map (·.fd)) ∧
        (∀ index < failing, isRegionMapped (World.fresh.vdev.guestMemmap.slot index) = false →
          ∃ vaddr, Env.calm.mmapRegion index = .ok vaddr ∧
            desc.storedAt [8, 9] index vaddr ∈
              desc.mappedBetween [8, 9] Env.calm World.fresh 0 failing) ∧
        ∀ reg ∈ desc.mappedBetween [8, 9] Env.calm World.fresh 0 failing, ∃ index < failing,
          ∃ vaddr, Env.calm.mmapRegion index = .ok vaddr ∧
            reg = desc.storedAt [8, 9] index vaddr ∧
            .mmap ([8, 9].getD index (-1)) (desc.regions.getD index default).size
              (desc.regions.getD index default).mmapOffset ∈ calls ∧
            (reg.range = (vaddr.addr, (desc.regions.getD index default).size) ↔
              (desc.regions.getD index default).size.toNat < 2 ^ 44) :=
  ⟨by decide, by decide, by decide, vhostSetMemTable_failed_releases (by decide) (by decide)⟩

/-! ## An accepted table

When every region maps, slot `i < n` keeps its live mapping if the master
resent the slot's guest address and page count, closing the duplicate fd, and
otherwise receives the mapping `mmap` returned. Every slot from `n` on keeps
what it held before. -/

/-- What region `index` of an accepted table leaves in the slot that held `old`. -/
def MemDesc.Accepted (desc : MemDesc) (fds : List Int) (env : Env) (index : Nat)
    (old reg : GuestMemoryRegion) : Prop :=
  if isRegionMapped old then
    reg = old ∧ old.gpa = (desc.regions.getD index default).guestAddr ∧
      old.pages = ((desc.regions.getD index default).size >>> pageShift).toUInt32
  else desc.Stores fds env index reg

/-- The call `map_guest_region` makes for region `index` of an accepted table
over the slot that held `old`: the close of the duplicate fd, or the `mmap`. -/
def MemDesc.acceptedCall (desc : MemDesc) (fds : List Int) (index : Nat)
    (old : GuestMemoryRegion) : Effect :=
  if isRegionMapped old then .close (fds.getD index (-1))
  else .mmap (fds.getD index (-1)) (desc.regions.getD index default).size
    (desc.regions.getD index default).mmapOffset

/-- The loop of `vhost_set_mem_table` from region `index`, when it succeeds:
the slots it passes over are as `MemDesc.Accepted` says, the others keep
their mapping, and it makes one call per region, in order. -/
theorem vhostSetMemTableLoop_accepted (env : Env) (desc : MemDesc) (fds : List Int) :
    ∀ (remaining index : Nat) (w : World),
      (vhostSetMemTableLoop env desc fds remaining index w).2 = 0 →
      (∀ other, other < index ∨ index + remaining ≤ other →
        (vhostSetMemTableLoop env desc fds remaining index w).1.vdev.guestMemmap.slot other =
          w.vdev.guestMemmap.slot other) ∧
      (∀ other, index ≤ other → other < index + remaining →
        desc.Accepted fds env other (w.vdev.guestMemmap.slot other)
          ((vhostSetMemTableLoop env desc fds remaining index w).1.vdev.guestMemmap.slot other)) ∧
      (vhostSetMemTableLoop env desc fds remaining index w).1.effects =
        w.effects ++ (List.range' index remaining).map fun other =>
          desc.acceptedCall fds other (w.vdev.guestMemmap.slot other)
  | 0, _, w, _ => ⟨fun _ _ => rfl, fun _ _ _ => by omega, (List.append_nil _).symm⟩
  | remaining + 1, index, w, accepted => by
    have cases := mapGuestRegion_cases w index (desc.regions.getD index default).guestAddr
      (desc.regions.getD index default).userAddr (desc.regions.getD index default).size
      (desc.regions.getD index default).mmapOffset (fds.getD index (-1)) (env.mmapRegion index)
    unfold vhostSetMemTableLoop at accepted ⊢
    dsimp only at accepted ⊢
    generalize mapGuestRegion w index (desc.regions.getD index default).guestAddr
      (desc.regions.getD index default).userAddr (desc.regions.getD index default).size
      (desc.regions.getD index default).mmapOffset (fds.getD index (-1)) (env.mmapRegion index) =
      mapped at cases accepted ⊢
    rcases cases with ⟨-, refused⟩ | ⟨live, same, pages, rfl⟩ | ⟨-, errno, -, rfl⟩ |
      ⟨free, below, -, vaddr, hit, rfl⟩
    · rw [if_pos (by simpa using refused)] at accepted
      exact absurd accepted refused
    · simp only [bne_self_eq_false, Bool.false_eq_true, ite_false] at accepted ⊢
      obtain ⟨outside, inside, effects⟩ :=
        vhostSetMemTableLoop_accepted env desc fds remaining (index + 1) _ accepted
      refine ⟨fun other beyond => outside other (by omega), fun other after before => ?_, ?_⟩
      · rcases Nat.lt_or_ge index other with later | here
        · exact inside other later (by omega)
        · obtain rfl : other = index := by omega
          rw [outside other (.inl (Nat.lt_succ_self _))]
          simp only [MemDesc.Accepted, if_pos live]
          exact ⟨rfl, same, pages⟩
      · rw [effects, List.range'_succ, List.map_cons]
        simp [MemDesc.acceptedCall, live]
    · have failing : errno.val ≠ 0 := Int.ne_of_gt errno.pos
      rw [if_pos (by simpa using failing)] at accepted
      exact absurd accepted failing
    · simp only [bne_self_eq_false, Bool.false_eq_true, ite_false] at accepted ⊢
      obtain ⟨outside, inside, effects⟩ :=
        vhostSetMemTableLoop_accepted env desc fds remaining (index + 1) _ accepted
      refine ⟨fun other beyond => ?_, fun other after before => ?_, ?_⟩
      · rw [outside other (by omega), World.setRegion_slot_of_ne _ (by omega), World.emit_vdev]
      · rcases Nat.lt_or_ge index other with later | here
        · have stored := inside other later (by omega)
          rwa [World.setRegion_slot_of_ne _ (Nat.ne_of_lt later), World.emit_vdev] at stored
        · obtain rfl : other = index := by omega
          rw [outside other (.inl (Nat.lt_succ_self _))]
          simp only [MemDesc.Accepted, free, Bool.false_eq_true, ite_false]
          refine ⟨vaddr, hit, ?_⟩
          simp [MemDesc.storedAt, World.setRegion, GuestMemoryMap.slot_set,
            w.vdev.guestMemmap.length_regions, below]
      · rw [effects, List.range'_succ, List.map_cons,
          List.map_congr_left fun other member => congrArg (desc.acceptedCall fds other) (by
            rw [World.setRegion_slot_of_ne _ (by simp at member; omega), World.emit_vdev])]
        simp [MemDesc.acceptedCall, free, World.setRegion]

/-- An accepted `SET_MEM_TABLE` with `n` regions: `n` is within the limit; only
the memory map and the effect log change; slot `i < n` is as
`MemDesc.Accepted` says; every slot from `n` on keeps what it held; and the
calls are one per region, in order: the close of a duplicate fd or an `mmap`. -/
theorem vhostSetMemTable_accepted_slots {w : World} {msg : Msg} {fds : List Int} {env : Env}
    (accepted : (vhostSetMemTable w msg fds env).2 = 0) :
    msg.payload.memDesc.nregions.toNat ≤ vhostUserMemRegionsMax ∧
    OnlyMemory w (vhostSetMemTable w msg fds env).1 ∧
    (∀ index < msg.payload.memDesc.nregions.toNat,
      msg.payload.memDesc.Accepted fds env index (w.vdev.guestMemmap.slot index)
        ((vhostSetMemTable w msg fds env).1.vdev.guestMemmap.slot index)) ∧
    (∀ index, msg.payload.memDesc.nregions.toNat ≤ index →
      (vhostSetMemTable w msg fds env).1.vdev.guestMemmap.slot index =
        w.vdev.guestMemmap.slot index) ∧
    (vhostSetMemTable w msg fds env).1.effects = w.effects ++
      (List.range msg.payload.memDesc.nregions.toNat).map fun index =>
        msg.payload.memDesc.acceptedCall fds index (w.vdev.guestMemmap.slot index) := by
  unfold vhostSetMemTable at accepted ⊢
  dsimp only at accepted ⊢
  by_cases counted : vhostUserMemRegionsMax < msg.payload.memDesc.nregions.toNat
  · rw [if_pos counted] at accepted
    exact absurd accepted (show EINVAL ≠ 0 by decide)
  rw [if_neg counted] at accepted ⊢
  obtain ⟨outside, inside, effects⟩ := vhostSetMemTableLoop_accepted env _ fds _ 0 w accepted
  exact ⟨not_lt.1 counted, vhostSetMemTableLoop_onlyMemory env _ fds _ 0 w,
    fun index below => inside index (Nat.zero_le _) (by omega),
    fun index beyond => outside index (.inr (by omega)), by rwa [List.range_eq_range']⟩

/-- The first master's table, resent as it was: slot 0 keeps its mapping and
the duplicate fd 9 is closed. -/
theorem resentTable_accepted_slots :
    (vhostSetMemTable vringRunning (memTableAt 0) [9] Env.calm).2 = 0 ∧
    (memTableAt 0).payload.memDesc.nregions.toNat ≤ vhostUserMemRegionsMax ∧
    OnlyMemory vringRunning (vhostSetMemTable vringRunning (memTableAt 0) [9] Env.calm).1 ∧
    (∀ index < (memTableAt 0).payload.memDesc.nregions.toNat,
      (memTableAt 0).payload.memDesc.Accepted [9] Env.calm index
        (vringRunning.vdev.guestMemmap.slot index)
        ((vhostSetMemTable vringRunning (memTableAt 0) [9] Env.calm).1.vdev.guestMemmap.slot
          index)) ∧
    (∀ index, (memTableAt 0).payload.memDesc.nregions.toNat ≤ index →
      (vhostSetMemTable vringRunning (memTableAt 0) [9] Env.calm).1.vdev.guestMemmap.slot index =
        vringRunning.vdev.guestMemmap.slot index) ∧
    (vhostSetMemTable vringRunning (memTableAt 0) [9] Env.calm).1.effects =
      vringRunning.effects ++
        (List.range (memTableAt 0).payload.memDesc.nregions.toNat).map fun index =>
          (memTableAt 0).payload.memDesc.acceptedCall [9] index
            (vringRunning.vdev.guestMemmap.slot index) :=
  ⟨by decide, vhostSetMemTable_accepted_slots (by decide)⟩

end VhostServer

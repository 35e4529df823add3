import VhostServer.Lifecycle

/-!
# The inflight area

`GET_INFLIGHT_FD` asks the slave for a shared area in which each queue records
the descriptors it has taken and not yet completed, so that a restarted
backend can resume them. `vhost_get_inflight_fd` sizes the area as
`num_queues` regions of `vring_inflight_buf_size(queue_size)` bytes, maps a
memfd of that size, zeroes it, writes one `inflight_split_region` header at
the start of each region, and sends the fd back with the size.

The calls of the model act on a byte-addressed memory through `Effect.store`.
`inflightAreaByte` reads the area as the protocol describes it, and
`vhostGetInflightFd_layout` shows that a successful call leaves exactly that
area inside the mapping and every byte outside the mapping as it was.
-/

namespace VhostServer

/-! ## Memory -/

/-- The `width` low bytes of `value`, low byte first, as a little-endian host
stores them. -/
def littleEndian : Nat → Nat → List UInt8
  | 0, _ => []
  | width + 1, value => value.toUInt8 :: littleEndian width (value / 256)

@[simp] theorem length_littleEndian : ∀ width value, (littleEndian width value).length = width
  | 0, _ => rfl
  | width + 1, value => congrArg Nat.succ (length_littleEndian width (value / 256))

/-- `struct inflight_split_region` as it lies in memory: `features`,
`version`, `desc_num`, `last_batch_head` and `used_idx` in declaration order,
with no padding. The descriptor array that follows it is not part of the
header. -/
def InflightSplitRegion.bytes (header : InflightSplitRegion) : List UInt8 :=
  littleEndian 8 header.features.toNat ++ littleEndian 2 header.version.toNat ++
    littleEndian 2 header.descNum.toNat ++ littleEndian 2 header.lastBatchHead.toNat ++
    littleEndian 2 header.usedIdx.toNat

/-- The header takes `sizeof(struct inflight_split_region)` bytes. -/
@[simp] theorem InflightSplitRegion.length_bytes (header : InflightSplitRegion) :
    header.bytes.length = inflightSplitRegionSize.toNat := by
  simp only [InflightSplitRegion.bytes, List.length_append, length_littleEndian]
  rfl

/-- What a call stores into the process's memory: `memset` zeroes `length`
bytes from `addr`, a header write stores the header's bytes from `addr`, and
the other calls store nothing. Addresses are 64-bit and wrap, as the code's
pointer arithmetic does on a 64-bit host. -/
def Effect.store (effect : Effect) (memory : UInt64 → UInt8) : UInt64 → UInt8 :=
  match effect with
  | .memset addr length => fun address =>
    if (address - addr).toNat < length.toNat then 0 else memory address
  | .writeInflightHeader addr header => fun address =>
    if (address - addr).toNat < header.bytes.length then
      header.bytes.getD (address - addr).toNat 0
    else memory address
  | _ => memory

/-- The memory after `effects`, in order, from `memory`. -/
def storeEffects (effects : List Effect) (memory : UInt64 → UInt8) : UInt64 → UInt8 :=
  effects.foldl (fun memory effect => effect.store memory) memory

@[simp] theorem storeEffects_nil (memory : UInt64 → UInt8) : storeEffects [] memory = memory :=
  rfl

@[simp] theorem storeEffects_cons (effect : Effect) (effects : List Effect)
    (memory : UInt64 → UInt8) :
    storeEffects (effect :: effects) memory = storeEffects effects (effect.store memory) :=
  rfl

theorem storeEffects_append (effects more : List Effect) (memory : UInt64 → UInt8) :
    storeEffects (effects ++ more) memory = storeEffects more (storeEffects effects memory) :=
  List.foldl_append _ _ _ _

/-! ## The area the protocol asks for -/

/-- The size of the area: `num_queues` regions of
`vring_inflight_buf_size(queue_size)` bytes. -/
def inflightAreaSize (idesc : InflightDesc) : Nat :=
  idesc.numQueues.toNat * (vringInflightBufSize idesc.queueSize).toNat

/-- Byte `offset` of the area, read as the protocol states it: region `i`
starts at `i * per` with the header `{features = 0, version = 1, desc_num =
queue_size, last_batch_head = 0, used_idx = 0}`, and every other byte is
zero. -/
def inflightAreaByte (idesc : InflightDesc) (offset : Nat) : UInt8 :=
  let per := (vringInflightBufSize idesc.queueSize).toNat
  let header : InflightSplitRegion :=
    { features := 0, version := 1, descNum := idesc.queueSize, lastBatchHead := 0, usedIdx := 0 }
  if offset / per < idesc.numQueues.toNat then header.bytes.getD (offset % per) 0 else 0

/-- Two queues of four descriptors take 160 bytes; the second region starts at
80, with `version` at 88 and `desc_num` at 90. -/
example : inflightAreaSize ⟨0, 0, 2, 4⟩ = 160 ∧ inflightAreaByte ⟨0, 0, 2, 4⟩ 88 = 1 ∧
    inflightAreaByte ⟨0, 0, 2, 4⟩ 90 = 4 ∧ inflightAreaByte ⟨0, 0, 2, 4⟩ 96 = 0 := by
  decide

/-! ## Sizes -/

theorem UInt64.toNat_ofNat_eq_mod (value : Nat) : (UInt64.ofNat value).toNat = value % 2 ^ 64 :=
  BitVec.toNat_ofNat _ _

/-- `vring_inflight_buf_size` does not wrap: a header and `queue_size`
descriptors of 16 bytes each. -/
theorem vringInflightBufSize_toNat (qsize : UInt16) :
    (vringInflightBufSize qsize).toNat = 16 + qsize.toNat * 16 := by
  have small : qsize.toNat < 65536 := qsize.toNat_lt_size
  unfold vringInflightBufSize inflightSplitRegionSize inflightSplitDescSize
  rw [UInt64.toNat_add, UInt64.toNat_mul]
  show (16 + qsize.toNat * 16 % 2 ^ 64) % 2 ^ 64 = _
  omega

/-- The size `vhost_get_inflight_fd` computes does not wrap either: it is the
size of the area. -/
theorem inflightSize_toNat (idesc : InflightDesc) :
    (vringInflightBufSize idesc.queueSize * idesc.numQueues.toUInt64).toNat =
      inflightAreaSize idesc := by
  have queues : idesc.numQueues.toNat < 65536 := idesc.numQueues.toNat_lt_size
  have qsize : idesc.queueSize.toNat < 65536 := idesc.queueSize.toNat_lt_size
  have fits : (vringInflightBufSize idesc.queueSize).toNat * idesc.numQueues.toNat < 2 ^ 64 := by
    rw [vringInflightBufSize_toNat]
    calc (16 + idesc.queueSize.toNat * 16) * idesc.numQueues.toNat
        ≤ (16 + 65535 * 16) * 65535 := Nat.mul_le_mul (by omega) (by omega)
      _ < 2 ^ 64 := by decide
  rw [UInt64.toNat_mul]
  show (vringInflightBufSize idesc.queueSize).toNat * idesc.numQueues.toNat % 2 ^ 64 = _
  rw [Nat.mod_eq_of_lt fits, inflightAreaSize, Nat.mul_comm]

/-! ## The header loop -/

theorem UInt64.add_ofNat_mul_add (buf per : UInt64) (index : Nat) :
    buf + UInt64.ofNat (index * per.toNat) + per = buf + UInt64.ofNat ((index + 1) * per.toNat) := by
  apply UInt64.toNat.inj
  simp only [UInt64.toNat_add, UInt64.toNat_ofNat_eq_mod, Nat.succ_mul]
  omega

/-- The header loop from region `start` writes one header per queue, `per`
bytes apart. -/
theorem inflightHeaderLoop_from (qsize : UInt16) (buf per : UInt64) :
    ∀ (remaining start : Nat) (w : World),
      inflightHeaderLoop qsize per remaining (buf + UInt64.ofNat (start * per.toNat)) w =
        { w with
          effects := w.effects ++ (List.range' start remaining).map (fun index =>
            Effect.writeInflightHeader (buf + UInt64.ofNat (index * per.toNat))
              (inflightSplitRegionInit qsize)) }
  | 0, _, w => by simp [inflightHeaderLoop]
  | remaining + 1, start, w => by
    rw [inflightHeaderLoop, UInt64.add_ofNat_mul_add, inflightHeaderLoop_from qsize buf per remaining]
    simp [List.range'_succ, World.emit]

theorem inflightHeaderLoop_effects (qsize : UInt16) (buf per : UInt64) (queues : Nat) (w : World) :
    inflightHeaderLoop qsize per queues buf w =
      { w with
        effects := w.effects ++ (List.range queues).map (fun index =>
          Effect.writeInflightHeader (buf + UInt64.ofNat (index * per.toNat))
            (inflightSplitRegionInit qsize)) } := by
  have start : buf + UInt64.ofNat (0 * per.toNat) = buf := by
    apply UInt64.toNat.inj
    rw [UInt64.toNat_add, UInt64.toNat_ofNat_eq_mod]
    have := UInt64.toNat_lt buf
    omega
  rw [← start, inflightHeaderLoop_from, List.range_eq_range', start]

/-! ## The headers in memory -/

/-- Offset `offset` lies in the first `width` bytes of region `index` of
`per`-byte regions exactly when it has quotient `index` and remainder below
`width`. -/
theorem window_iff {offset per index width : Nat} (wide : width ≤ per) :
    (index * per ≤ offset ∧ offset < index * per + width) ↔
      (offset / per = index ∧ offset % per < width) := by
  have split := Nat.div_add_mod offset per
  constructor
  · rintro ⟨after, before⟩
    have quotient : offset / per = index :=
      Nat.div_eq_of_lt_le after (by rw [Nat.succ_mul]; omega)
    refine ⟨quotient, ?_⟩
    rw [quotient, Nat.mul_comm] at split
    omega
  · rintro ⟨rfl, small⟩
    rw [Nat.mul_comm] at split
    omega

/-- The distance from a header written at `buf + offset` to `address`, read
off the distance from `buf`. -/
theorem UInt64.toNat_sub_add_ofNat (address buf : UInt64) {offset : Nat}
    (below : offset < 2 ^ 64) :
    (address - (buf + UInt64.ofNat offset)).toNat =
      ((address - buf).toNat + 2 ^ 64 - offset) % 2 ^ 64 := by
  have := UInt64.toNat_lt address
  have := UInt64.toNat_lt buf
  simp only [UInt64.toNat_sub, UInt64.toNat_add, UInt64.toNat_ofNat_eq_mod,
    Nat.mod_eq_of_lt below]
  omega

/-- `count` headers written `per` bytes apart from `buf`: a byte in the first
bytes of one of the first `count` regions holds that byte of the header, and
every other byte keeps its value. -/
theorem storeEffects_headers (header : InflightSplitRegion) (buf per : UInt64)
    (memory : UInt64 → UInt8) (wide : header.bytes.length ≤ per.toNat) :
    ∀ count, count * per.toNat < 2 ^ 64 → ∀ address,
      storeEffects ((List.range count).map fun index =>
          Effect.writeInflightHeader (buf + UInt64.ofNat (index * per.toNat)) header) memory
          address =
        if (address - buf).toNat / per.toNat < count ∧
            (address - buf).toNat % per.toNat < header.bytes.length then
          header.bytes.getD ((address - buf).toNat % per.toNat) 0
        else memory address := by
  intro count
  induction count with
  | zero => simp
  | succ count earlier =>
    intro fits address
    rw [Nat.succ_mul] at fits
    have distance := UInt64.toNat_sub_add_ofNat address buf
      (show count * per.toNat < 2 ^ 64 by omega)
    have within := UInt64.toNat_lt (address - buf)
    rw [List.range_succ, List.map_append, storeEffects_append, List.map_singleton,
      storeEffects_cons, storeEffects_nil]
    simp only [Effect.store, distance]
    rw [earlier (by omega) address]
    by_cases inWindow : count * per.toNat ≤ (address - buf).toNat ∧
        (address - buf).toNat < count * per.toNat + header.bytes.length
    · have quotient := (window_iff wide).1 inWindow
      have offset : ((address - buf).toNat + 2 ^ 64 - count * per.toNat) % 2 ^ 64 =
          (address - buf).toNat % per.toNat := by
        have split := Nat.div_add_mod (address - buf).toNat per.toNat
        rw [quotient.1, Nat.mul_comm] at split
        omega
      rw [offset, if_pos quotient.2, if_pos ⟨by omega, quotient.2⟩]
    · have outside : ¬ ((address - buf).toNat + 2 ^ 64 - count * per.toNat) % 2 ^ 64 <
          header.bytes.length := by omega
      have notThis := mt (window_iff wide).2 inWindow
      rw [if_neg outside]
      by_cases earlierWindow : (address - buf).toNat / per.toNat < count ∧
          (address - buf).toNat % per.toNat < header.bytes.length
      · rw [if_pos earlierWindow, if_pos ⟨by omega, earlierWindow.2⟩]
      · rw [if_neg earlierWindow, if_neg fun later => by
          rcases Nat.lt_succ_iff_lt_or_eq.1 later.1 with before | same
          · exact earlierWindow ⟨before, later.2⟩
          · exact notThis ⟨same, later.2⟩]

/-! ## A successful call -/

/-- The headers the loop of `vhost_get_inflight_fd` writes into the area at
`buf`: one per queue, `vring_inflight_buf_size(queue_size)` bytes apart. -/
def inflightHeaderWrites (idesc : InflightDesc) (buf : UInt64) : List Effect :=
  (List.range idesc.numQueues.toNat).map fun index =>
    .writeInflightHeader (buf + UInt64.ofNat (index * (vringInflightBufSize idesc.queueSize).toNat))
      (inflightSplitRegionInit idesc.queueSize)

/-- `vhost_send_fds` records the send, whatever `sendmsg` answers. -/
theorem vhostSendFds_fst (w : World) (msg : Msg) (fds : List Int) (sent : Except Errno Nat) :
    (vhostSendFds w msg fds sent).1 = w.emit (.send w.vdev.connfd msg fds) := by
  unfold vhostSendFds
  split
  · rfl
  · split <;> rfl

theorem vhdVdevInflightCleanup_connfd (w : World) :
    (vhdVdevInflightCleanup w).vdev.connfd = w.vdev.connfd := by
  unfold vhdVdevInflightCleanup
  split <;> rfl

/-- What a successful `vhost_get_inflight_fd` does: its memfd and its mapping
succeeded; the device records the mapping with the size it computed; the
reply carries that size at offset 0; and after the cleanup its calls are the
`mmap`, the `memset` of the whole area, one header per queue, and the send of
the reply with the fd. -/
theorem vhostGetInflightFd_succeeded {w : World} {msg : Msg} {env : Env}
    (succeeded : (vhostGetInflightFd w msg env).2.2 = 0) :
    ∃ fd buf, env.memfdCreate = .ok fd ∧ env.mmapInflight = .ok buf ∧
      (vhostGetInflightFd w msg env).1.vdev =
        { (vhdVdevInflightCleanup w).vdev with
          inflightfd := fd, inflightMem := buf.addr,
          inflightSize := vringInflightBufSize msg.payload.inflightDesc.queueSize *
            msg.payload.inflightDesc.numQueues.toUInt64 } ∧
      (vhostGetInflightFd w msg env).2.1.payload.inflightDesc.mmapSize =
        vringInflightBufSize msg.payload.inflightDesc.queueSize *
          msg.payload.inflightDesc.numQueues.toUInt64 ∧
      (vhostGetInflightFd w msg env).2.1.payload.inflightDesc.mmapOffset = 0 ∧
      (vhostGetInflightFd w msg env).1.effects = (vhdVdevInflightCleanup w).effects ++
        .mmap fd (vringInflightBufSize msg.payload.inflightDesc.queueSize *
            msg.payload.inflightDesc.numQueues.toUInt64) 0 ::
          .memset buf.addr (vringInflightBufSize msg.payload.inflightDesc.queueSize *
            msg.payload.inflightDesc.numQueues.toUInt64) ::
          (inflightHeaderWrites msg.payload.inflightDesc buf.addr ++
            [.send w.vdev.connfd (vhostGetInflightFd w msg env).2.1 [fd]]) := by
  rw [← vhdVdevInflightCleanup_connfd w]
  generalize result : vhostGetInflightFd w msg env = r at succeeded ⊢
  unfold vhostGetInflightFd at result
  generalize vhdVdevInflightCleanup w = cleaned at result ⊢
  dsimp only at result
  split at result
  · rename_i errno _
    subst result
    exact absurd succeeded (Int.ne_of_gt errno.pos)
  rename_i fd memfd
  split at result
  · rename_i errno _
    subst result
    exact absurd succeeded (Int.ne_of_gt errno.pos)
  unfold inflightMmapRegion at result
  cases mapped : env.mmapInflight with
  | error errno =>
    have failing : errno.val ≠ 0 := Int.ne_of_gt errno.pos
    rw [mapped] at result
    rw [if_pos (show (errno.val != 0) = true by simpa using failing)] at result
    subst result
    exact absurd succeeded failing
  | ok buf =>
    rw [mapped] at result
    simp only [bne_self_eq_false, Bool.false_eq_true, ite_false] at result
    rw [inflightHeaderLoop_effects] at result
    split at result
    · rename_i failed
      subst result
      exact absurd succeeded (by simpa using failed)
    · subst result
      rw [vhostSendFds_fst]
      refine ⟨fd, buf, memfd, rfl, rfl, rfl, rfl, ?_⟩
      simp [inflightHeaderWrites, World.emit]

/-! ## The layout -/

/-- A successful `GET_INFLIGHT_FD`, for every queue count and queue size. The
size it computes does not wrap and is the size of the area. The device holds
a mapping of the memfd of exactly that size, and the reply carries the size
at offset 0. After the cleanup, the calls map the memfd, store into memory,
and send the reply with the fd. What they store is, inside the mapping, the
area the protocol describes, and outside it nothing. -/
theorem vhostGetInflightFd_layout {w : World} {msg : Msg} {env : Env}
    (succeeded : (vhostGetInflightFd w msg env).2.2 = 0) :
    (vringInflightBufSize msg.payload.inflightDesc.queueSize *
        msg.payload.inflightDesc.numQueues.toUInt64).toNat =
      inflightAreaSize msg.payload.inflightDesc ∧
    ∃ fd buf calls, env.memfdCreate = .ok fd ∧ env.mmapInflight = .ok buf ∧
      (vhostGetInflightFd w msg env).1.vdev.inflightfd = fd ∧
      (vhostGetInflightFd w msg env).1.vdev.inflightMem = buf.addr ∧
      (vhostGetInflightFd w msg env).1.vdev.inflightSize.toNat =
        inflightAreaSize msg.payload.inflightDesc ∧
      (vhostGetInflightFd w msg env).2.1.payload.inflightDesc.mmapSize.toNat =
        inflightAreaSize msg.payload.inflightDesc ∧
      (vhostGetInflightFd w msg env).2.1.payload.inflightDesc.mmapOffset = 0 ∧
      (vhostGetInflightFd w msg env).1.effects = (vhdVdevInflightCleanup w).effects ++
        .mmap fd (vhostGetInflightFd w msg env).1.vdev.inflightSize 0 :: calls ∧
      .send w.vdev.connfd (vhostGetInflightFd w msg env).2.1 [fd] ∈ calls ∧
      ∀ memory address, storeEffects calls memory address =
        if (address - buf.addr).toNat < inflightAreaSize msg.payload.inflightDesc then
          inflightAreaByte msg.payload.inflightDesc (address - buf.addr).toNat
        else memory address := by
  obtain ⟨fd, buf, memfd, mapped, device, size, offset, effects⟩ :=
    vhostGetInflightFd_succeeded succeeded
  have total := inflightSize_toNat msg.payload.inflightDesc
  refine ⟨total, fd, buf, _, memfd, mapped, by rw [device], by rw [device],
    by rw [device]; exact total, by rw [size]; exact total, offset, by rw [effects, device],
    by simp, fun memory address => ?_⟩
  have per := vringInflightBufSize_toNat msg.payload.inflightDesc.queueSize
  have wide : (inflightSplitRegionInit msg.payload.inflightDesc.queueSize).bytes.length ≤
      (vringInflightBufSize msg.payload.inflightDesc.queueSize).toNat := by
    rw [InflightSplitRegion.length_bytes, per]
    exact Nat.le_add_right _ _
  have fits : msg.payload.inflightDesc.numQueues.toNat *
      (vringInflightBufSize msg.payload.inflightDesc.queueSize).toNat < 2 ^ 64 := by
    rw [← inflightAreaSize, ← total]
    exact UInt64.toNat_lt _
  simp only [storeEffects_cons, storeEffects_append, storeEffects_nil, Effect.store]
  rw [inflightHeaderWrites, storeEffects_headers _ _ _ _ wide _ fits]
  simp only [total, inflightAreaByte, inflightAreaSize,
    Nat.div_lt_iff_lt_mul
      (show 0 < (vringInflightBufSize msg.payload.inflightDesc.queueSize).toNat by omega)]
  by_cases inside : (address - buf.addr).toNat <
      msg.payload.inflightDesc.numQueues.toNat *
        (vringInflightBufSize msg.payload.inflightDesc.queueSize).toNat
  · by_cases header : (address - buf.addr).toNat %
        (vringInflightBufSize msg.payload.inflightDesc.queueSize).toNat <
          (inflightSplitRegionInit msg.payload.inflightDesc.queueSize).bytes.length
    · simp only [inside, header, and_self, if_true]
      rfl
    · simp only [inside, header, and_false, if_true, if_false]
      rw [List.getD_eq_getElem?_getD, List.getElem?_eq_none (by simpa using not_lt.1 header)]
      rfl
  · simp only [inside, false_and, if_false]

/-- `GET_INFLIGHT_FD` for two queues of four descriptors. -/
def getInflightTwoQueues : Msg :=
  { req := .getInflightFd, flags := 1, size := 24,
    payload := { (default : Payload) with inflightDesc := ⟨0, 0, 2, 4⟩ } }

/-- The host answers as `Env.calm`, and `sendmsg` sends the whole 36-byte reply. -/
def inflightReplied : Env := { Env.calm with sendReply := .ok 36 }

theorem twoQueues_inflight_layout :
    (vhostGetInflightFd firstMaster getInflightTwoQueues inflightReplied).2.2 = 0 ∧
    (vringInflightBufSize getInflightTwoQueues.payload.inflightDesc.queueSize *
        getInflightTwoQueues.payload.inflightDesc.numQueues.toUInt64).toNat =
      inflightAreaSize getInflightTwoQueues.payload.inflightDesc ∧
    ∃ fd buf calls, inflightReplied.memfdCreate = .ok fd ∧ inflightReplied.mmapInflight = .ok buf ∧
      (vhostGetInflightFd firstMaster getInflightTwoQueues inflightReplied).1.vdev.inflightfd = fd ∧
      (vhostGetInflightFd firstMaster getInflightTwoQueues inflightReplied).1.vdev.inflightMem =
        buf.addr ∧
      (vhostGetInflightFd firstMaster getInflightTwoQueues inflightReplied).1.vdev.inflightSize.toNat =
        inflightAreaSize getInflightTwoQueues.payload.inflightDesc ∧
      (vhostGetInflightFd firstMaster getInflightTwoQueues
          inflightReplied).2.1.payload.inflightDesc.mmapSize.toNat =
        inflightAreaSize getInflightTwoQueues.payload.inflightDesc ∧
      (vhostGetInflightFd firstMaster getInflightTwoQueues
          inflightReplied).2.1.payload.inflightDesc.mmapOffset = 0 ∧
      (vhostGetInflightFd firstMaster getInflightTwoQueues inflightReplied).1.effects =
        (vhdVdevInflightCleanup firstMaster).effects ++
          .mmap fd (vhostGetInflightFd firstMaster getInflightTwoQueues
            inflightReplied).1.vdev.inflightSize 0 :: calls ∧
      .send firstMaster.vdev.connfd
          (vhostGetInflightFd firstMaster getInflightTwoQueues inflightReplied).2.1 [fd] ∈ calls ∧
      ∀ memory address, storeEffects calls memory address =
        if (address - buf.addr).toNat < inflightAreaSize getInflightTwoQueues.payload.inflightDesc
        then inflightAreaByte getInflightTwoQueues.payload.inflightDesc (address - buf.addr).toNat
        else memory address :=
  ⟨by decide, vhostGetInflightFd_layout (by decide)⟩

/-! ## A failed call -/

theorem vhdVdevInflightCleanup_inflightfd (w : World) :
    (vhdVdevInflightCleanup w).vdev.inflightfd = -1 := by
  unfold vhdVdevInflightCleanup
  split
  · rename_i none
    simpa using none
  · rfl

/-- Header writes neither close nor unmap anything. -/
@[simp] theorem headerWrites_count_close (address : Nat → UInt64) (header : InflightSplitRegion)
    (indices : List Nat) (fd : Int) :
    (indices.map fun index => Effect.writeInflightHeader (address index) header).count
      (.close fd) = 0 :=
  List.count_eq_zero.2 fun member => by
    obtain ⟨_, -, written⟩ := List.mem_map.1 member
    cases written

@[simp] theorem headerWrites_count_munmap (address : Nat → UInt64) (header : InflightSplitRegion)
    (indices : List Nat) (addr length : UInt64) :
    (indices.map fun index => Effect.writeInflightHeader (address index) header).count
      (.munmap addr length) = 0 :=
  List.count_eq_zero.2 fun member => by
    obtain ⟨_, -, written⟩ := List.mem_map.1 member
    cases written

/-- A failed `GET_INFLIGHT_FD`, at whichever call it fails: the device holds no
inflight region, and after the cleanup its calls release what it acquired.
The memfd is closed exactly once if it was created; the mapping is unmapped
exactly once, at the address `mmap` returned and the size it was mapped with,
if it was made; and nothing else is closed or unmapped. -/
theorem vhostGetInflightFd_failed_releases {w : World} {msg : Msg} {env : Env}
    (failed : (vhostGetInflightFd w msg env).2.2 ≠ 0) :
    (vhostGetInflightFd w msg env).1.vdev.inflightfd = -1 ∧
    ∃ calls, (vhostGetInflightFd w msg env).1.effects = (vhdVdevInflightCleanup w).effects ++ calls ∧
      (∀ fd, calls.count (.close fd) = if env.memfdCreate.toOption = some fd then 1 else 0) ∧
      ∀ addr length, calls.count (.munmap addr length) =
        if env.memfdCreate.toOption.isSome ∧ env.ftruncate.toOption.isSome ∧
            env.mmapInflight.toOption.map MapAddr.addr = some addr ∧
            length = vringInflightBufSize msg.payload.inflightDesc.queueSize *
              msg.payload.inflightDesc.numQueues.toUInt64
        then 1 else 0 := by
  have released := vhdVdevInflightCleanup_inflightfd w
  generalize result : vhostGetInflightFd w msg env = r at failed ⊢
  unfold vhostGetInflightFd at result
  generalize vhdVdevInflightCleanup w = cleaned at result released ⊢
  dsimp only at result
  split at result
  · rename_i errno created
    subst result
    exact ⟨released, [], by simp, by simp [created, Except.toOption], by simp [created, Except.toOption]⟩
  rename_i fd created
  split at result
  · rename_i errno truncated
    subst result
    refine ⟨released, [.close fd], rfl, fun other => ?_, by simp [truncated, Except.toOption]⟩
    simp [created, Except.toOption, List.count_singleton']
  rename_i truncated
  unfold inflightMmapRegion at result
  cases mapped : env.mmapInflight with
  | error errno =>
    rw [mapped, if_pos (bne_iff_ne.2 (Int.ne_of_gt errno.pos))] at result
    subst result
    refine ⟨released, [.mmap fd (vringInflightBufSize msg.payload.inflightDesc.queueSize *
      msg.payload.inflightDesc.numQueues.toUInt64) 0, .close fd], by simp, fun other => ?_,
      by simp [mapped, Except.toOption]⟩
    simp [created, Except.toOption, List.count_singleton']
  | ok buf =>
    simp only [mapped, bne_self_eq_false, Bool.false_eq_true, ite_false,
      inflightHeaderLoop_effects] at result
    split at result
    · subst result
      rw [vhostSendFds_fst]
      refine ⟨rfl, ?_⟩
      simp only [World.close_eq, World.emit_effects, List.append_assoc, List.singleton_append]
      refine ⟨_, rfl, fun other => ?_, fun addr length => ?_⟩
      · simp [created, Except.toOption, List.count_singleton']
      · simp [created, truncated, mapped, Except.toOption, List.count_cons, @eq_comm _ length]
    · rename_i succeeded
      subst result
      exact absurd rfl failed

/-- The reply to `getInflightTwoQueues` hits a closed socket. -/
def inflightPipeBroken : Env := { Env.calm with sendReply := .error ⟨32, by decide⟩ }

theorem brokenPipe_inflight_released :
    (vhostGetInflightFd firstMaster getInflightTwoQueues inflightPipeBroken).2.2 ≠ 0 ∧
    (vhostGetInflightFd firstMaster getInflightTwoQueues inflightPipeBroken).1.vdev.inflightfd = -1 ∧
    ∃ calls, (vhostGetInflightFd firstMaster getInflightTwoQueues inflightPipeBroken).1.effects =
        (vhdVdevInflightCleanup firstMaster).effects ++ calls ∧
      (∀ fd, calls.count (.close fd) =
        if inflightPipeBroken.memfdCreate.toOption = some fd then 1 else 0) ∧
      ∀ addr length, calls.count (.munmap addr length) =
        if inflightPipeBroken.memfdCreate.toOption.isSome ∧
            inflightPipeBroken.ftruncate.toOption.isSome ∧
            inflightPipeBroken.mmapInflight.toOption.map MapAddr.addr = some addr ∧
            length = vringInflightBufSize getInflightTwoQueues.payload.inflightDesc.queueSize *
              getInflightTwoQueues.payload.inflightDesc.numQueues.toUInt64
        then 1 else 0 :=
  ⟨by decide, vhostGetInflightFd_failed_releases (by decide)⟩

end VhostServer

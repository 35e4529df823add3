import VhostServer.Teardown

/-!
# The listen socket

`sock_create_server` and `prepare_server_sock_path`, which `vhd_vdev_init_server`
runs before it builds the device: refuse a path that does not fit `sun_path`,
remove a stale socket file at the path, then create the socket, bind it to the
path, listen, and make it non-blocking. Each system call is answered by a
`SockEnv`, and the calls are returned in the order they are made.

On every path through the function the socket it creates is closed exactly
once when it fails and never when it succeeds, and the only file it removes is
a socket at the requested path (`sockCreateServer_disposes`). The address it
binds is the path itself, terminated inside `sun_path`, for every path the
length check lets through, including one of 107 bytes, whose terminator is the
byte `strncpy` leaves alone (`sockCreateServer_binds_path`). Composed with the
rest of `vhd_vdev_init_server`, initialisation is all or nothing: a failure
leaves no socket open, nothing watched and the device off `g_vdevs`
(`vhdVdevInitServer_all_or_nothing`).
-/

namespace VhostServer

/-! ## C strings and Unix socket addresses -/

/-- A C string: its bytes before the terminating `NUL`, none of which is
zero. -/
structure CString where
  bytes : List UInt8
  no_nul : (0 : UInt8) ∉ bytes
  deriving DecidableEq

/-- `strlen`. -/
def CString.strlen (s : CString) : Nat := s.bytes.length

/-- `strncpy(dest, src, n)`, for `n` within `dest`: the first `n` bytes
become `src`, cut to `n` or padded with `NUL`s up to `n`, and the rest of `dest`
is kept. When `src` has `n` bytes or more, no `NUL` is written. -/
def strncpy (dest : List UInt8) (src : CString) (n : Nat) : List UInt8 :=
  (src.bytes ++ List.replicate n 0).take n ++ dest.drop n

/-- `sizeof(((struct sockaddr_un *)0)->sun_path)` on Linux. -/
def sunPathSize : Nat := 108

/-- `AF_UNIX`. -/
def afUnix : UInt16 := 1

/-- `struct sockaddr_un`: a family and a `sun_path` of `sunPathSize` bytes. -/
structure SockaddrUn where
  sunFamily : UInt16
  sunPath : List UInt8
  length_sunPath : sunPath.length = sunPathSize
  deriving DecidableEq

/-- The address `sock_create_server` binds: `memset` to zero, `AF_UNIX`, and
`strncpy` of the path into all of `sun_path` but its last byte. -/
def serverSockaddr (path : CString) : SockaddrUn where
  sunFamily := afUnix
  sunPath := strncpy (List.replicate sunPathSize 0) path (sunPathSize - 1)
  length_sunPath := by simp [strncpy, sunPathSize]

/-! ## The system calls -/

/-- `ENOENT`. -/
def ENOENT : Int := 2

/-- `S_IFMT`. -/
def sIfmt : UInt32 := 0o170000

/-- `S_IFSOCK`. -/
def sIfsock : UInt32 := 0o140000

/-- `S_ISSOCK(mode)`. -/
def sIsSock (mode : UInt32) : Bool := mode &&& sIfmt == sIfsock

/-- `O_NONBLOCK`. -/
def oNonblock : Nat := 0o4000

/-- The answers of the system calls of `sock_create_server`. The calls whose
result the source tests against `< 0` answer an `int`. -/
structure SockEnv where
  /-- `stat(path)`: the `st_mode` of the file at the path. -/
  stat : Except Errno UInt32
  /-- `unlink(path)`. -/
  unlink : Except Errno Unit
  /-- `socket(AF_UNIX, SOCK_STREAM, 0)`: the descriptor. -/
  socket : Int
  /-- `bind`. -/
  bind : Int
  /-- `listen`. -/
  listen : Int
  /-- `fcntl(fd, F_GETFL, 0)`: the file status flags. -/
  fcntlGetfl : Int
  /-- `fcntl(fd, F_SETFL, flags)`. -/
  fcntlSetfl : Int

/-- A system call of `sock_create_server`. `bind` is passed the whole
`struct sockaddr_un` as its length. -/
inductive SockCall where
  | stat (path : CString)
  | unlink (path : CString)
  /-- `socket(AF_UNIX, SOCK_STREAM, 0)`. -/
  | socket
  | bind (fd : Int) (addr : SockaddrUn)
  | listen (fd : Int) (backlog : Nat)
  | fcntlGetfl (fd : Int)
  | fcntlSetfl (fd : Int) (flags : Nat)
  | close (fd : Int)
  deriving DecidableEq

/-- `prepare_server_sock_path`: `0` when nothing is at the path, or when a
socket file is there and could be removed; otherwise the error. -/
def prepareServerSockPath (path : CString) (env : SockEnv) : List SockCall × Int :=
  match env.stat with
  | .error errno => ([.stat path], if errno.val == ENOENT then 0 else errno.val)
  | .ok mode =>
    if !sIsSock mode then ([.stat path], EINVAL)
    else
      match env.unlink with
      | .error errno => ([.stat path, .unlink path], errno.val)
      | .ok () => ([.stat path, .unlink path], 0)

/-- The calls of `sock_create_server` on the socket `fd`, after `socket`:
bind it to the path, listen with a backlog of one, and add `O_NONBLOCK` to its
flags. The flags are non-negative where they are used. -/
def listenCalls (path : CString) (env : SockEnv) (fd : Int) : List SockCall :=
  [.bind fd (serverSockaddr path), .listen fd 1, .fcntlGetfl fd,
    .fcntlSetfl fd (env.fcntlGetfl.toNat ||| oNonblock)]

/-- `sock_create_server`: the listen socket, or `-1`. Once `socket` has
succeeded, every later failure goes to `close_fd`. -/
def sockCreateServer (path : CString) (env : SockEnv) : List SockCall × Int :=
  if sunPathSize ≤ path.strlen then ([], -1)
  else
    let prepared := prepareServerSockPath path env
    if prepared.2 != 0 then (prepared.1, -1)
    else
      let fd := env.socket
      let calls := prepared.1 ++ [.socket]
      if fd < 0 then (calls, -1)
      else
        let closeFd (done : Nat) := (calls ++ (listenCalls path env fd).take done ++ [.close fd], -1)
        if env.bind < 0 then closeFd 1
        else if env.listen < 0 then closeFd 2
        else if env.fcntlGetfl < 0 then closeFd 3
        else if env.fcntlSetfl < 0 then closeFd 4
        else (calls ++ listenCalls path env fd, fd)

/-! ## Every path through `sock_create_server` -/

/-- The calls of `prepare_server_sock_path` stat the path, and unlink it only
when it holds a socket. -/
def SockCall.Prepares (path : CString) (env : SockEnv) (call : SockCall) : Prop :=
  call = .stat path ∨ call = .unlink path ∧ ∃ mode, env.stat = .ok mode ∧ sIsSock mode = true

theorem prepareServerSockPath_prepares (path : CString) (env : SockEnv) :
    ∀ call ∈ (prepareServerSockPath path env).1, call.Prepares path env := by
  unfold prepareServerSockPath
  split
  · simp [SockCall.Prepares]
  · rename_i mode stated
    split
    · simp [SockCall.Prepares]
    · rename_i socketFile
      have isSocket : sIsSock mode = true := by simpa using socketFile
      split <;> simp [SockCall.Prepares, stated, isSocket]

/-- The four ways `sock_create_server` ends: before `socket`, at a failed
`socket`, at `close_fd` after `done` of the calls on the socket, or with the
socket. -/
theorem sockCreateServer_cases (path : CString) (env : SockEnv) :
    ∃ prepared, (∀ call ∈ prepared, call.Prepares path env) ∧
      (sockCreateServer path env = (prepared, -1) ∨
        sockCreateServer path env = (prepared ++ [.socket], -1) ∧ env.socket < 0 ∨
        (∃ done, 0 < done ∧ done ≤ 4 ∧ 0 ≤ env.socket ∧
          sockCreateServer path env =
            (prepared ++ [.socket] ++ (listenCalls path env env.socket).take done ++
              [.close env.socket], -1)) ∨
        0 ≤ env.socket ∧ 0 ≤ env.fcntlGetfl ∧
          sockCreateServer path env = (prepared ++ [.socket] ++ listenCalls path env env.socket,
            env.socket)) := by
  unfold sockCreateServer
  by_cases long : sunPathSize ≤ path.strlen
  · exact ⟨[], fun _ => (List.not_mem_nil _).elim, .inl (if_pos long)⟩
  rw [if_neg long]
  refine ⟨_, prepareServerSockPath_prepares path env, ?_⟩
  dsimp only
  by_cases refused : (prepareServerSockPath path env).2 != 0
  · exact .inl (if_pos refused)
  rw [if_neg refused]
  by_cases failed : env.socket < 0
  · exact .inr (.inl ⟨if_pos failed, failed⟩)
  rw [if_neg failed]
  have created : 0 ≤ env.socket := Int.not_lt.1 failed
  refine .inr (.inr ?_)
  by_cases unbound : env.bind < 0
  · exact .inl ⟨1, by omega, by omega, created, if_pos unbound⟩
  rw [if_neg unbound]
  by_cases deaf : env.listen < 0
  · exact .inl ⟨2, by omega, by omega, created, if_pos deaf⟩
  rw [if_neg deaf]
  by_cases unread : env.fcntlGetfl < 0
  · exact .inl ⟨3, by omega, by omega, created, if_pos unread⟩
  rw [if_neg unread]
  by_cases unset : env.fcntlSetfl < 0
  · exact .inl ⟨4, by omega, by omega, created, if_pos unset⟩
  · exact .inr ⟨created, Int.not_lt.1 unread, if_neg unset⟩

/-- What a successful `sock_create_server` has done to the socket it returns. -/
structure ListenSocket (path : CString) (env : SockEnv) (calls : List SockCall) (fd : Int) :
    Prop where
  /-- It is the descriptor `socket` returned. -/
  created : SockCall.socket ∈ calls ∧ fd = env.socket ∧ 0 ≤ fd
  /-- It is bound to the address of the path. -/
  bound : SockCall.bind fd (serverSockaddr path) ∈ calls
  /-- It listens, with a backlog of one. -/
  listening : SockCall.listen fd 1 ∈ calls
  /-- Its flags were read, and written back with `O_NONBLOCK` added. -/
  nonblocking : 0 ≤ env.fcntlGetfl ∧ SockCall.fcntlSetfl fd (env.fcntlGetfl.toNat ||| oNonblock) ∈ calls

namespace SockCall

theorem Prepares.unlink {path file : CString} {env : SockEnv}
    (prepares : (SockCall.unlink file).Prepares path env) :
    file = path ∧ ∃ mode, env.stat = .ok mode ∧ sIsSock mode = true := by
  rcases prepares with stat | ⟨unlinked, socketFile⟩
  · cases stat
  · cases unlinked
    exact ⟨rfl, socketFile⟩

/-- A call of `prepare_server_sock_path` neither creates nor closes a
socket. -/
theorem Prepares.ne_socket_close {path : CString} {env : SockEnv} {call : SockCall}
    (prepares : call.Prepares path env) : call ≠ .socket ∧ ∀ fd, call ≠ .close fd := by
  rcases prepares with rfl | ⟨rfl, -⟩ <;> exact ⟨nofun, fun _ => nofun⟩

end SockCall

theorem listenCalls_mem {path : CString} {env : SockEnv} {fd : Int} {call : SockCall}
    (member : call ∈ listenCalls path env fd) :
    call ≠ .socket ∧ (∀ other, call ≠ .close other) ∧ ∀ file, call ≠ .unlink file := by
  simp only [listenCalls, List.mem_cons, List.mem_singleton, List.not_mem_nil, or_false] at member
  rcases member with rfl | rfl | rfl | rfl <;> exact ⟨nofun, fun _ => nofun, fun _ => nofun⟩

/-- Every call of `sock_create_server` is one of `prepare_server_sock_path`,
the `socket` call, one of the calls on the socket, or its `close`. -/
theorem sockCreateServer_mem {path : CString} {env : SockEnv} {call : SockCall}
    (member : call ∈ (sockCreateServer path env).1) :
    call.Prepares path env ∨ call = .socket ∨ call ∈ listenCalls path env env.socket ∨
      call = .close env.socket := by
  obtain ⟨prepared, prepares, early | ⟨failed, -⟩ | ⟨done, -, -, -, closed⟩ | ⟨-, -, listened⟩⟩ :=
    sockCreateServer_cases path env
  · rw [early] at member
    exact .inl (prepares _ member)
  · rw [failed, List.mem_append, List.mem_singleton] at member
    exact member.imp (prepares _) .inl
  · rw [closed] at member
    simp only [List.mem_append, List.mem_singleton] at member
    rcases member with ((member | member) | member) | member
    · exact .inl (prepares _ member)
    · exact .inr (.inl member)
    · exact .inr (.inr (.inl (List.mem_of_mem_take member)))
    · exact .inr (.inr (.inr member))
  · rw [listened, List.mem_append, List.mem_append, List.mem_singleton] at member
    rcases member with (member | member) | member
    · exact .inl (prepares _ member)
    · exact .inr (.inl member)
    · exact .inr (.inr (.inl member))

/-- The only file `sock_create_server` removes is the requested path, and only
when `stat` reports a socket there. -/
theorem sockCreateServer_unlink {path file : CString} {env : SockEnv}
    (member : SockCall.unlink file ∈ (sockCreateServer path env).1) :
    file = path ∧ ∃ mode, env.stat = .ok mode ∧ sIsSock mode = true := by
  rcases sockCreateServer_mem member with prepares | socket | onSocket | closed
  · exact prepares.unlink
  · cases socket
  · exact absurd rfl ((listenCalls_mem onSocket).2.2 file)
  · cases closed

/-- `sock_create_server` closes no descriptor but the socket it created, and
that one exactly once when it fails after creating it. -/
theorem sockCreateServer_count_close (path : CString) (env : SockEnv) (fd : Int) :
    (sockCreateServer path env).1.count (.close fd) =
      if (sockCreateServer path env).2 = -1 ∧ SockCall.socket ∈ (sockCreateServer path env).1 ∧
          0 ≤ env.socket ∧ fd = env.socket then 1 else 0 := by
  obtain ⟨prepared, prepares, ending⟩ := sockCreateServer_cases path env
  have unclosed : prepared.count (.close fd) = 0 :=
    List.count_eq_zero.2 fun member => (prepares _ member).ne_socket_close.2 fd rfl
  have uncreated : SockCall.socket ∉ prepared := fun member =>
    (prepares _ member).ne_socket_close.1 rfl
  have steps : ∀ done, ((listenCalls path env env.socket).take done).count (.close fd) = 0 :=
    fun done => List.count_eq_zero.2 fun member =>
      (listenCalls_mem (List.mem_of_mem_take member)).2.1 fd rfl
  rcases ending with early | ⟨failed, negative⟩ | ⟨done, -, -, created, closed⟩ |
    ⟨created, -, listened⟩
  · simp [early, unclosed, uncreated]
  · simp [failed, unclosed, Int.not_le.2 negative]
  · simp [closed, unclosed, steps, List.count_singleton', created, @eq_comm _ fd]
  · rw [listened, ← List.take_of_length_le (le_refl (listenCalls path env env.socket).length)]
    simp only [List.count_append, unclosed, steps, List.count_singleton']
    simp [Int.ne_of_gt (Int.lt_of_lt_of_le (by decide : (-1 : Int) < 0) created)]

/-- A `sock_create_server` that does not fail returns its socket, bound,
listening and non-blocking. -/
theorem sockCreateServer_listenSocket {path : CString} {env : SockEnv}
    (kept : (sockCreateServer path env).2 ≠ -1) :
    ListenSocket path env (sockCreateServer path env).1 (sockCreateServer path env).2 := by
  obtain ⟨prepared, -, early | ⟨failed, -⟩ | ⟨done, -, -, -, closed⟩ | ⟨created, flags, listened⟩⟩ :=
    sockCreateServer_cases path env
  · exact absurd (by rw [early]) kept
  · exact absurd (by rw [failed]) kept
  · exact absurd (by rw [closed]) kept
  · rw [listened]
    exact ⟨⟨by simp, rfl, created⟩, by simp [listenCalls], by simp [listenCalls], flags,
      by simp [listenCalls]⟩

/-- Every path through `sock_create_server`, for every answer of every system
call. It closes no descriptor but the socket it created, and that one exactly
once when it fails after creating it and never when it succeeds. A success
returns that socket, bound to the path, listening and non-blocking. The only
file it removes is the requested path, and only when `stat` reports a socket
there. -/
theorem sockCreateServer_disposes (path : CString) (env : SockEnv) :
    (∀ fd, (sockCreateServer path env).1.count (.close fd) =
      if (sockCreateServer path env).2 = -1 ∧ SockCall.socket ∈ (sockCreateServer path env).1 ∧
          0 ≤ env.socket ∧ fd = env.socket then 1 else 0) ∧
    ((sockCreateServer path env).2 ≠ -1 →
      ListenSocket path env (sockCreateServer path env).1 (sockCreateServer path env).2) ∧
    ∀ file, SockCall.unlink file ∈ (sockCreateServer path env).1 →
      file = path ∧ ∃ mode, env.stat = .ok mode ∧ sIsSock mode = true :=
  ⟨sockCreateServer_count_close path env, sockCreateServer_listenSocket,
    fun _ member => sockCreateServer_unlink member⟩

/-! ## The address -/

/-- How the kernel reads a pathname in `sun_path`: up to its first `NUL`. -/
def SockaddrUn.pathname (addr : SockaddrUn) : List UInt8 := addr.sunPath.takeWhile (· != 0)

/-- `strncpy` of a string that fits into a zeroed buffer: the string, then
`NUL`s to the end of the buffer. -/
theorem strncpy_replicate_zero (src : CString) {n size : Nat} (fits : src.strlen ≤ n)
    (within : n ≤ size) :
    strncpy (List.replicate size 0) src n = src.bytes ++ List.replicate (size - src.strlen) 0 := by
  unfold strncpy CString.strlen at *
  rw [List.take_append_eq_append_take, List.take_of_length_le fits, List.take_replicate,
    List.drop_replicate, List.append_assoc, List.append_replicate_replicate]
  congr 2
  omega

/-- A string followed by `NUL`s reads back as the string. -/
theorem takeWhile_bytes_replicate_zero (src : CString) (count : Nat) :
    (src.bytes ++ List.replicate count 0).takeWhile (· != 0) = src.bytes := by
  rw [List.takeWhile_append_of_pos fun byte member =>
    bne_iff_ne.2 fun (zero : byte = 0) => src.no_nul (zero ▸ member)]
  cases count <;> simp [List.replicate_succ]

/-- The address `sock_create_server` binds. A path of `sun_path`'s size or
longer is refused before any system call. Every shorter path, up to 107 bytes,
is bound as an `AF_UNIX` address whose `sun_path` is the path followed by at
least one `NUL`, so the kernel reads back exactly the path. -/
theorem sockCreateServer_binds_path (path : CString) (env : SockEnv) :
    (sunPathSize ≤ path.strlen → sockCreateServer path env = ([], -1)) ∧
    ∀ fd addr, SockCall.bind fd addr ∈ (sockCreateServer path env).1 →
      path.strlen < sunPathSize ∧ addr.sunFamily = afUnix ∧
        addr.sunPath = path.bytes ++ List.replicate (sunPathSize - path.strlen) 0 ∧
        addr.pathname = path.bytes := by
  refine ⟨fun long => if_pos long, fun fd addr member => ?_⟩
  have short : path.strlen < sunPathSize := Nat.lt_of_not_le fun long => by
    rw [sockCreateServer, if_pos long] at member
    cases member
  have bound : addr = serverSockaddr path := by
    rcases sockCreateServer_mem member with prepares | socket | onSocket | closed
    · rcases prepares with stat | ⟨unlink, -⟩ <;> cases ‹SockCall.bind fd addr = _›
    · cases socket
    · simp [listenCalls] at onSocket
      exact onSocket.2
    · cases closed
  have filled : addr.sunPath = path.bytes ++ List.replicate (sunPathSize - path.strlen) 0 := by
    rw [bound]
    exact strncpy_replicate_zero path (by unfold sunPathSize at *; omega) (Nat.sub_le _ _)
  refine ⟨short, by rw [bound]; rfl, filled, ?_⟩
  rw [SockaddrUn.pathname, filled]
  exact takeWhile_bytes_replicate_zero path _

/-- At 107 bytes `strncpy` writes no `NUL`: the terminator is the last byte of
`sun_path`, which the `memset` zeroed. -/
example : (serverSockaddr ⟨List.replicate 107 47, by simp⟩).sunPath.getLast? = some 0 ∧
    (serverSockaddr ⟨List.replicate 107 47, by simp⟩).pathname = List.replicate 107 47 :=
  ⟨rfl, rfl⟩

/-! ## Initialisation over a path -/

/-- `vhd_vring_uninit` changes nothing on a device whose vrings are all
disabled. -/
theorem foldl_vhdVringUninit_of_disabled {w : World}
    (disabled : ∀ vring ∈ w.vdev.vrings, vring.isEnabled = false) (indices : List Nat) :
    indices.foldl vhdVringUninit w = w := by
  induction indices with
  | nil => rfl
  | cons index rest ih =>
    have kept : vhdVringUninit w index = w := by
      unfold vhdVringUninit
      split
      · rename_i vring found
        rw [if_neg (by simp [disabled vring (List.getElem?_mem found)])]
      · rfl
    rw [List.foldl_cons, kept, ih]

/-- `vhd_vdev_uninit` of a device with no enabled vring and no inflight
region only closes the listen socket and leaves `g_vdevs`. -/
theorem vhdVdevUninit_of_idle {w : World}
    (disabled : ∀ vring ∈ w.vdev.vrings, vring.isEnabled = false) (noInflight : w.vdev.inflightfd = -1) :
    vhdVdevUninit w = { w.close w.vdev.listenfd with listed := false } := by
  unfold vhdVdevUninit
  dsimp only
  rw [@foldl_vhdVringUninit_of_disabled (w.close w.vdev.listenfd) disabled]
  unfold vhdVdevInflightCleanup
  rw [if_pos (by simp [noInflight])]

/-- `vhd_vdev_init_server` over a socket path, for every path, queue count and
answer of every call (but a `max_queues` it aborts on). When it fails, the
socket it created is closed exactly once, no other descriptor is closed,
neither loop watches anything and the device is off `g_vdevs`. When it
succeeds, the device listens on the socket `sock_create_server` bound to the
path, the vhost loop watches exactly that socket, and nothing was closed. -/
theorem vhdVdevInitServer_all_or_nothing {path : CString} {maxQueues : UInt32}
    {sockEnv : SockEnv} {env : Env} {w : World} {ret : Int}
    (initialised :
      vhdVdevInitServer maxQueues (sockCreateServer path sockEnv).2 env = some (w, ret)) :
    (ret ≠ 0 → w.vhostEvents = [] ∧ w.rqEvents = [] ∧ w.listed = false ∧
      ∀ fd, (sockCreateServer path sockEnv).1.count (.close fd) + w.effects.count (.close fd) =
        if SockCall.socket ∈ (sockCreateServer path sockEnv).1 ∧ 0 ≤ sockEnv.socket ∧
          fd = sockEnv.socket then 1 else 0) ∧
    (ret = 0 → ListenSocket path sockEnv (sockCreateServer path sockEnv).1 w.vdev.listenfd ∧
      w.vdev.state = .listening ∧ w.vhostEvents = [⟨w.vdev.listenfd, .server⟩] ∧
      (∀ fd, SockCall.close fd ∉ (sockCreateServer path sockEnv).1) ∧ w.effects = []) := by
  have listening := @sockCreateServer_listenSocket path sockEnv
  have counted := sockCreateServer_count_close path sockEnv
  generalize sockCreateServer path sockEnv = result at initialised listening counted ⊢
  obtain ⟨calls, listenfd⟩ := result
  dsimp only at initialised listening counted ⊢
  unfold vhdVdevInitServer at initialised
  split_ifs at initialised with invalid negative
  · have failed : listenfd = -1 := Classical.not_not.1 fun kept =>
      Int.not_le.2 negative (listening kept).created.2.2
    cases initialised
    refine ⟨fun _ => ⟨rfl, rfl, rfl, fun fd => ?_⟩, nofun⟩
    simp [counted, failed]
  have kept : listenfd ≠ -1 := fun failed => negative (by omega)
  obtain ⟨created, -, -, -⟩ := listening kept
  dsimp only at initialised
  rw [changeDeviceState_of_initialized rfl] at initialised
  rcases armListen_cases _ env with ⟨armed, failed⟩ | ⟨armed, -⟩
  · rw [armed, if_pos (by simpa using failed)] at initialised
    cases initialised
    have disabled : ∀ vring ∈ (Vdev.init listenfd maxQueues).vrings, vring.isEnabled = false := by
      simp [Vdev.init, List.mem_replicate, vhdVringInit]
    have uninit := @vhdVdevUninit_of_idle ⟨Vdev.init listenfd maxQueues, [], [], true, []⟩
      disabled rfl
    refine ⟨fun _ => ?_, fun zero => absurd zero failed⟩
    rw [uninit]
    refine ⟨rfl, rfl, rfl, fun fd => ?_⟩
    obtain ⟨socketCalled, rfl, created⟩ := created
    simp [counted, kept, created, socketCalled, Vdev.init, List.count_singleton', @eq_comm _ fd]
  · rw [armed, if_neg (by simp)] at initialised
    cases initialised
    exact ⟨fun nonzero => absurd rfl nonzero, fun _ => ⟨listening kept, rfl, rfl,
      fun fd => List.count_eq_zero.1 (by simp [counted, kept]), rfl⟩⟩

/-- The path `/s`. -/
def shortPath : CString := ⟨[47, 115], by decide⟩

/-- Nothing is at the path, and every call on the new socket, descriptor 3,
succeeds. -/
def freshPathEnv : SockEnv :=
  { stat := .error ⟨ENOENT, by decide⟩, unlink := .ok (), socket := 3, bind := 0, listen := 0,
    fcntlGetfl := 2, fcntlSetfl := 0 }

/-- The device `vhd_vdev_init_server` leaves when the vhost loop refuses to
watch the socket `freshPathEnv` creates: torn down, with the socket closed. -/
def refusedListen : World := ⟨Vdev.init 3 1, [], [], false, [.close 3]⟩

/-- The environment of the refused registration. -/
def listenRefused : Env := { Env.calm with addVhostEvent := -12 }

theorem refusedListen_all_or_nothing :
    vhdVdevInitServer 1 (sockCreateServer shortPath freshPathEnv).2 listenRefused =
      some (refusedListen, -12) ∧
    ((-12 : Int) ≠ 0 → refusedListen.vhostEvents = [] ∧ refusedListen.rqEvents = [] ∧
      refusedListen.listed = false ∧
      ∀ fd, (sockCreateServer shortPath freshPathEnv).1.count (.close fd) +
          refusedListen.effects.count (.close fd) =
        if SockCall.socket ∈ (sockCreateServer shortPath freshPathEnv).1 ∧
          0 ≤ freshPathEnv.socket ∧ fd = freshPathEnv.socket then 1 else 0) ∧
    ((-12 : Int) = 0 →
      ListenSocket shortPath freshPathEnv (sockCreateServer shortPath freshPathEnv).1
          refusedListen.vdev.listenfd ∧
        refusedListen.vdev.state = .listening ∧
        refusedListen.vhostEvents = [⟨refusedListen.vdev.listenfd, .server⟩] ∧
        (∀ fd, SockCall.close fd ∉ (sockCreateServer shortPath freshPathEnv).1) ∧
        refusedListen.effects = []) :=
  ⟨rfl, @vhdVdevInitServer_all_or_nothing shortPath 1 freshPathEnv listenRefused refusedListen
    (-12) rfl⟩

end VhostServer

import VhostServer.Kicks

/-!
# Tearing a device down

`vhd_vdev_uninit` closes the listen socket, disables every vring, releases the
inflight region and leaves `g_vdevs`, and makes no other call
(`vhdVdevUninit_releases`). It unmaps no guest region, closes no connection
and removes no event source from the vhost loop. A device torn down while
listening leaves the loop watching its closed listen socket; one torn down
while a master is connected also leaves guest memory mapped, the connection
open and watched, and a kick fd that `SET_VRING_KICK` replaced still
registered on the request queue (`vhdVdevUninit_leaves_resources`).
-/

namespace VhostServer

/-- Torn down while listening, a fresh device leaves the vhost loop watching
its closed listen socket. Torn down while a master runs vring 0 on a replaced
kick fd, it also leaves guest page 0 mapped with its fd 8 open, the connection
on fd 4 open and watched, and the old kick fd 5 registered on the request
queue, although vring 0 is disabled and the device has left `g_vdevs`. -/
theorem vhdVdevUninit_leaves_resources :
    (vhdVdevUninit World.fresh).vhostEvents = [⟨3, .server⟩] ∧
      Reachable runningRekicked ∧ runningRekicked.vdev.state = .connected ∧
      isRegionMapped ((vhdVdevUninit runningRekicked).vdev.guestMemmap.slot 0) = true ∧
      Effect.close 8 ∉ (vhdVdevUninit runningRekicked).effects ∧
      Effect.close 4 ∉ (vhdVdevUninit runningRekicked).effects ∧
      (vhdVdevUninit runningRekicked).vhostEvents = [⟨4, .conn⟩] ∧
      (vhdVdevUninit runningRekicked).rqEvents = [⟨5, 0⟩] ∧
      (vhdVdevUninit runningRekicked).vdev.vrings.map (·.isEnabled) = [false] ∧
      (vhdVdevUninit runningRekicked).listed = false :=
  ⟨by decide, reachable_vringRunning.connRead _ _ ⟨⟨4, .conn⟩, by decide, rfl⟩, by decide,
    by decide, by decide, by decide, by decide, by decide, by decide, by decide⟩

end VhostServer

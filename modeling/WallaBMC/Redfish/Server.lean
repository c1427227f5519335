import WallaBMC.Redfish.Handler
import WallaBMC.Library.Runs

/-! All Redfish resources as one system. The HTTP thread delivers callbacks one at a time; whatever else
happens on the BMC between them changes the application state only. `Buffers` is the same system without
a heap: each resource has a buffer or none. -/

namespace WallaBMC.Redfish

open Library.Runs

inductive Event (ρ σ : Type*)
  | callback (r : ρ) (cb : Callback)
  | outside (change : σ → σ)

structure Server (ρ σ : Type*) where
  heap : Heap
  userData : ρ → UserData
  app : σ

structure Buffers (ρ σ : Type*) where
  buffer : ρ → Option Buffer
  app : σ

variable {ρ σ : Type*} [DecidableEq ρ] (auth : Auth σ) (table : ρ → Resource σ)

namespace Server

def init (garbage : ℕ → ℕ → UInt8) (app : σ) : Server ρ σ :=
  ⟨⟨0, fun _ => none, [], garbage⟩, fun _ => .zero, app⟩

def slot (s : Server ρ σ) (r : ρ) : Slot := ⟨s.heap, s.userData r⟩

def step (s : Server ρ σ) : Event ρ σ → Server ρ σ × Option Reply
  | .callback r cb =>
    let out := redfishHandler auth (table r) cb (s.slot r) s.app
    (⟨out.store.heap, Function.update s.userData r out.store.userData, out.app⟩, some out.reply)
  | .outside change => ({ s with app := change s.app }, none)

end Server

namespace Buffers

def init (app : σ) : Buffers ρ σ := ⟨fun _ => none, app⟩

def step (s : Buffers ρ σ) : Event ρ σ → Buffers ρ σ × Option Reply
  | .callback r cb =>
    let out := redfishHandler auth (table r) cb (s.buffer r) s.app
    (⟨Function.update s.buffer r out.store, out.app⟩, some out.reply)
  | .outside change => ({ s with app := change s.app }, none)

end Buffers

end WallaBMC.Redfish

import EntityEngine.Engine.Basic
import EntityEngine.Proofs.Store.Definitions

/-! What an engine keeps to: its store is sound, and its registry holds the live definitions. So the
registry answers as the store does, and resolving a definition leaves it as it is. -/

namespace EntityEngine.Engine

open Store

/-- What an engine keeps to: its store is sound, and its registry holds the live definitions. -/
structure Inv (g : Engine) : Prop where
  sound : g.database.Sound
  tidy : g.database.Tidy
  holds : g.registry.Holds g.database.live

variable {g g' : Engine}

theorem start_inv {database : Database} (sound : database.Sound) (tidy : database.Tidy)
    (baseUrl : String) : (Engine.start database baseUrl).Inv :=
  ⟨sound, tidy, sound.load_holds⟩

namespace Inv

theorem get?_eq (inv : g.Inv) (id : Int) : g.registry.get? id = g.database.entity? id := by
  refine Option.ext fun e => ?_
  rw [inv.holds.get?_iff, inv.sound.entity?_iff]

theorem getByCode?_eq (inv : g.Inv) (appId : Int) (code : String) :
    g.registry.getByCode? appId code = g.database.entityByCode? appId code := by
  refine Option.ext fun e => ?_
  rw [inv.holds.getByCode?_iff, inv.sound.entityByCode?_iff]

/-- The registry knows every live definition, so resolving a code leaves it as it is. -/
theorem resolve (inv : g.Inv) {appId : Int} {code : String} {e : Entity}
    (h : g.resolve appId code = .ok (e, g')) :
    g' = g ∧ e ∈ g.database.live ∧ e.appId = appId ∧ e.code = code := by
  unfold Engine.resolve at h
  split at h
  · rename_i found
    obtain ⟨rfl, rfl⟩ := Prod.mk.inj (Except.ok.inj h)
    exact ⟨rfl, inv.holds.getByCode?_iff.mp found⟩
  · rename_i missing
    rw [← inv.getByCode?_eq, missing] at h
    cases h

theorem resolveId (inv : g.Inv) {id : Int} {e : Entity} (h : g.resolveId id = .ok (e, g')) :
    g' = g ∧ e ∈ g.database.live ∧ e.id = id := by
  unfold Engine.resolveId at h
  split at h
  · rename_i found
    obtain ⟨rfl, rfl⟩ := Prod.mk.inj (Except.ok.inj h)
    exact ⟨rfl, inv.holds.get?_iff.mp found⟩
  · rename_i missing
    rw [← inv.get?_eq, missing] at h
    cases h

/-- A live definition is the one that its code and its id resolve to. -/
theorem resolve_live (inv : g.Inv) {e : Entity} (he : e ∈ g.database.live) :
    g.resolve e.appId e.code = .ok (e, g) := by
  have held := inv.holds.getByCode?_iff.mpr ⟨he, rfl, rfl⟩
  simp only [Engine.resolve, held]

theorem resolveId_live (inv : g.Inv) {e : Entity} (he : e ∈ g.database.live) :
    g.resolveId e.id = .ok (e, g) := by
  have held := inv.holds.get?_iff.mpr ⟨he, rfl⟩
  simp only [Engine.resolveId, held]

end Inv

end EntityEngine.Engine

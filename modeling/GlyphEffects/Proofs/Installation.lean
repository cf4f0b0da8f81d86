import GlyphEffects.Proofs.Keys
import GlyphEffects.Proofs.Streaming
import GlyphEffects.Registry
import GlyphEffects.Snapshot

/-! # Completing a registry

Installing the built-in effects completes a registry and overrides nothing in it: what was found
before is found afterwards, and the names that are free get their built-in effects. Tags whose names
were known before are shown as before.

* `Registry.get?_install_of_some`, `Registry.get?_install_of_mem` and
  `Registry.get?_install_of_not_mem`: what is found afterwards.
* `Registry.install_install`, `Registry.map_install_add`, `Registry.install_remove` and
  `Registry.install_foldl_remove`: installing again, and beside other changes.
* `Replay.run_congr_registry`: registries that agree on the names that tags open cannot be told apart.
* `Registry.install_law`: **a registry is completed and not overridden.**
-/

namespace GlyphEffects

open GlyphEffects.Markup

namespace Registry

variable {r : Registry} {n : String} {e : Effect}

/-! ## What is found afterwards -/

theorem find?_builtins_eq_none (hn : n ∉ Effect.builtins.map Effect.name) :
    Effect.builtins.find? (·.name = n) = none := by
  refine List.find?_eq_none.2 fun b hb hname => hn ?_
  rw [← of_decide_eq_true hname]
  exact List.mem_map_of_mem hb

theorem get?_install_of_some (h : r.get? n = some e) : r.install.get? n = some e := by
  rw [get?_install, h, Option.some_or]

theorem get?_install_of_mem (he : e ∈ Effect.builtins) (h : r.get? e.name = none) :
    r.install.get? e.name = some e := by
  rw [get?_install, h, Option.none_or, find?_key (by decide) he]

theorem get?_install_of_not_mem (hn : n ∉ Effect.builtins.map Effect.name) :
    r.install.get? n = r.get? n := by
  rw [get?_install, find?_builtins_eq_none hn, Option.or_none]

theorem contains_install_of_mem (he : e ∈ Effect.builtins) : r.install.contains e.name := by
  rw [contains, get?_install, find?_key (by decide) he, Option.or_some, Option.isSome_some]

/-! ## Installing and other changes -/

theorem install_install (r : Registry) : r.install.install = r.install := by
  refine ext_get? fun n => ?_
  rw [get?_install, get?_install, Option.or_assoc, Option.or_self]

theorem install_put (r : Registry) (e : Effect) : (r.put e).install = r.install.put e := by
  refine ext_get? fun n => ?_
  rw [get?_install, get?_put, get?_put, get?_install]
  split
  next => rw [Option.some_or]
  next => rfl

theorem map_install_add (he : e.name ∉ Effect.builtins.map Effect.name) :
    (r.add e).map install = r.install.add e := by
  rw [add, add, contains, contains, get?_install_of_not_mem he]
  split
  next => rfl
  next => exact congrArg Except.ok (install_put r e)

theorem install_remove (hn : n ∉ Effect.builtins.map Effect.name) :
    (r.remove n).install = r.install.remove n := by
  refine ext_get? fun m => ?_
  rw [get?_install, get?_remove, get?_remove, get?_install]
  split
  next hm => rw [hm, find?_builtins_eq_none hn, Option.or_none]
  next => rfl

theorem get?_foldl_remove (r : Registry) (ns : List String) (n : String) :
    (ns.foldl remove r).get? n = if n ∈ ns then none else r.get? n := by
  induction ns generalizing r with
  | nil => rfl
  | cons m ns ih =>
    rw [List.foldl_cons, ih, get?_remove]
    by_cases hm : n = m <;> simp [hm]

/-- Whatever is taken out of the built-in effects is put back. -/
theorem install_foldl_remove (ns : List String) : (ns.foldl remove builtin).install = builtin := by
  refine ext_get? fun n => ?_
  rw [get?_install, get?_foldl_remove, builtin, get?_install, get?_empty, Option.none_or]
  split
  next => rw [Option.none_or]
  next => rw [Option.or_self]

/-- The registry has an effect for every name that a tag opens. -/
def Defines (r : Registry) (ts : List Token) : Prop :=
  ∀ n arguments, .opening n arguments ∈ ts → r.contains n

end Registry

/-! ## Registries that cannot be told apart -/

section

variable {s : Setup} {g : Registry} {ts : List Token} {t : Token}

namespace Replay

theorem step_congr_registry (h : ∀ n arguments, t = .opening n arguments →
    g.get? n = s.registry.get? n) (r : Replay) : r.step { s with registry := g } t = r.step s t := by
  cases t with
  | text content => rfl
  | opening n arguments => rw [step, step, h n arguments rfl]
  | closing n => rfl

theorem run_congr_registry (h : ∀ n arguments, .opening n arguments ∈ ts →
    g.get? n = s.registry.get? n) (r : Replay) :
    r.run { s with registry := g } ts = r.run s ts := by
  induction ts generalizing r with
  | nil => rfl
  | cons t ts ih =>
    have hstep : r.step { s with registry := g } t = r.step s t :=
      step_congr_registry (fun n arguments ht => h n arguments (ht ▸ List.mem_cons_self)) r
    rw [run, run, hstep]
    cases r.step s t with
    | ok next => exact ih (fun n arguments ht => h n arguments (List.mem_cons_of_mem t ht)) next
    | error e => rfl

end Replay

namespace Setup

theorem render_congr_registry (h : ∀ n arguments, .opening n arguments ∈ ts →
    g.get? n = s.registry.get? n) : { s with registry := g }.render ts = s.render ts := by
  rw [render, render, Replay.run_congr_registry h]
  rfl

variable {r : Registry} {font : Font} {settings : Settings}

/-- Completing the registry makes no difference where every name was known before. -/
theorem render_install (h : r.Defines ts) :
    render ⟨r.install, font, settings⟩ ts = render ⟨r, font, settings⟩ ts := by
  have hsame : ∀ n arguments, .opening n arguments ∈ ts → r.install.get? n = r.get? n := by
    intro n arguments ht
    obtain ⟨e, he⟩ := Option.isSome_iff_exists.1 (h n arguments ht)
    rw [he, Registry.get?_install_of_some he]
  exact render_congr_registry (s := ⟨r, font, settings⟩) hsame

theorem renderInto_install {σ : Type} [Sink σ] (h : r.Defines ts) (x : σ) :
    renderInto ⟨r.install, font, settings⟩ ts x = renderInto ⟨r, font, settings⟩ ts x := by
  rw [renderInto_eq, renderInto_eq, render_install h]

end Setup

end

theorem Snapshot.render_install {format : String} {r : Registry}
    (h : ∀ ts, parse format = .ok ts → r.Defines ts) :
    render format r.install = render format r := by
  rw [render, render]
  cases hp : parse format with
  | error fault => rfl
  | ok ts => simp only [setup, Setup.renderInto_install (h ts hp)]

/-- **A registry is completed and not overridden.** Afterwards a name has the effect that it had, or
else the built-in effect of that name, if there is one. So installing never fails, it makes all
built-in effects available, and doing it again changes nothing; it may as well come before or after
registering and removing other names; and what was taken out of the built-in effects it puts back.
Tags whose names were known before are shown as before, whatever they are shown with. -/
theorem Registry.install_law (r : Registry) :
    ((∀ n e, r.get? n = some e → r.install.get? n = some e) ∧
        (∀ b ∈ Effect.builtins, r.get? b.name = none → r.install.get? b.name = some b) ∧
        ∀ n, r.get? n = none → n ∉ Effect.builtins.map Effect.name → r.install.get? n = none) ∧
      (Change.install.apply r = .ok r.install ∧ r.install.install = r.install ∧
        ∀ b ∈ Effect.builtins, r.install.contains b.name) ∧
      ((∀ e, e.name ∉ Effect.builtins.map Effect.name →
          (r.add e).map install = r.install.add e) ∧
        ∀ n, n ∉ Effect.builtins.map Effect.name → (r.remove n).install = r.install.remove n) ∧
      (∀ ns : List String, (ns.foldl remove builtin).install = builtin) ∧
      (∀ font settings ts, r.Defines ts →
        Setup.render ⟨r.install, font, settings⟩ ts = Setup.render ⟨r, font, settings⟩ ts ∧
          ∀ (σ : Type) [Sink σ] (x : σ), Setup.renderInto ⟨r.install, font, settings⟩ ts x =
            Setup.renderInto ⟨r, font, settings⟩ ts x) ∧
      ∀ format, (∀ ts, parse format = .ok ts → r.Defines ts) →
        Snapshot.render format r.install = Snapshot.render format r := by
  refine ⟨⟨fun n e h => get?_install_of_some h, fun b hb h => get?_install_of_mem hb h,
      fun n h hn => (get?_install_of_not_mem hn).trans h⟩,
    ⟨rfl, install_install r, fun b hb => contains_install_of_mem hb⟩,
    ⟨fun e he => map_install_add he, fun n hn => install_remove hn⟩, install_foldl_remove,
    fun font settings ts h => ⟨Setup.render_install h, fun σ _ x => Setup.renderInto_install h x⟩,
    fun format h => Snapshot.render_install h⟩

end GlyphEffects

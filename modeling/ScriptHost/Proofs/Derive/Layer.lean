import Mathlib.Data.List.Nodup
import ScriptHost.Proofs.Derive.Acceptance

/-!
# What a derivation guarantees

A declaration that is accepted gives a layer with distinct names, each for a field of the
declaration that is not the ancestor's (`Derivation.Sound`), whatever reads paths. Nothing of
this is checked again when a record is used: access to records relies on it.
-/

namespace ScriptHost.Derivation

open Outcome

/-- The identifiers of the fields of a declaration, in order. -/
def idents (item : Item) : List String := item.fields.map ItemField.ident

/-- **What a derivation guarantees**: distinct names, and fields of the declaration that are
not the ancestor's. -/
structure Sound (item : Item) (d : Derivation) : Prop where
  struct : d.struct = item.ident
  names : (d.fields.map DerivedField.name).Nodup
  fields : ∀ f ∈ d.fields, f.field ∈ idents item
  base : ∀ b t, d.base = some (b, t) → ∀ f ∈ d.fields, f.field ≠ b

theorem sound_of_ofItem {item : Item} {paths : PathReader} {d : Derivation}
    (hd : ofItem item paths = .ok d) (hidents : (idents item).Nodup) : d.Sound item := by
  rw [Item.ofItem_eq, reporting_eq_ok_iff] at hd
  obtain ⟨hfaults, rfl⟩ := hd
  have hwell := Item.faults_eq_nil_iff.mp hfaults
  refine ⟨rfl, ?_, ?_, ?_⟩
  · rw [Item.description, ItemField.map_name_descriptor]
    exact hwell.distinct.names
  · intro f hf
    obtain ⟨g, hg, rfl⟩ := List.mem_map.mp hf
    exact List.mem_map_of_mem (List.mem_of_mem_filter hg)
  · intro b t hb f hf
    obtain ⟨g, hg, hgb⟩ := Option.map_eq_some_iff.mp hb
    obtain ⟨hg, hbase⟩ := List.mem_filter.mp (List.mem_of_head? hg)
    obtain ⟨k, hk, rfl⟩ := List.mem_map.mp hf
    obtain ⟨hk, hexposed⟩ := List.mem_filter.mp hk
    cases hgb
    -- The fields of a declaration are known by their identifiers.
    intro hident
    have hkg : k = g := List.inj_on_of_nodup_map hidents hk hg hident
    rw [hkg, ItemField.isExposed_of_isBase hbase] at hexposed
    cases hexposed

end ScriptHost.Derivation

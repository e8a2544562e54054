import AppBundle.Proofs.Cache.Files

/-!
# What a cache holds

`Holds K place d` says that `K` relates every bundle in the files of a cache to the key that names
its file. Operations that add files keep this if they add no bundles (`NoBundle`), or only bundles
that `K` relates to their keys (`KeptIn K`). So what a hit gives is related to the key of the app
file (`Holds.find`).
-/

namespace AppBundle

open Disk

/-- The file is none of a cache at the place, or it holds no bundle. -/
def NoBundle (place p : Place) (bytes : List UInt8) : Prop :=
  ∀ key, p = place ++ [key ++ ".json"] → CachedBundle.ofBytes? bytes = none

/-- The file is none of a cache at the place, or the bundle in it is related to its key. -/
def KeptIn (K : String → CachedBundle → Prop) (place p : Place) (bytes : List UInt8) : Prop :=
  ∀ key e, p = place ++ [key ++ ".json"] → CachedBundle.ofBytes? bytes = some e → K key e

/-- All bundles of a cache are related to their keys. -/
def Holds (K : String → CachedBundle → Prop) (place : Place) (d : Disk) : Prop :=
  ∀ key bytes e, d.get? (place ++ [key ++ ".json"]) = some (.file bytes) →
    CachedBundle.ofBytes? bytes = some e → K key e

variable {K K' : String → CachedBundle → Prop} {place : Place} {d d' : Disk}

theorem NoBundle.keptIn {p : Place} {bytes : List UInt8} (h : NoBundle place p bytes) :
    KeptIn K place p bytes := by
  intro key e hp he
  rw [h key hp] at he
  exact absurd he (by simp)

/-- A file with another ending is none of a cache. -/
theorem noBundle_of_ending {folder : Place} {name ending : String} {x : Char}
    (hending : ending.toList.getLast? = some x) (hx : x ≠ 'n') (bytes : List UInt8) :
    NoBundle place (folder ++ [name ++ ending]) bytes := by
  intro key hp
  have hjson : ".json".toList.getLast? = some 'n' := by decide
  exact absurd (Path.name_inj hp) (append_ne_append hending hjson hx name key)

theorem Holds.mono (h : Holds K place d) (hK : ∀ key e, K key e → K' key e) : Holds K' place d :=
  fun key bytes e hget he => hK key e (h key bytes e hget he)

/-- Nothing is held where nothing stands. -/
theorem holds_empty (h : ∀ name, d.get? (place ++ [name]) = none) : Holds K place d := by
  intro key bytes e hget
  rw [h] at hget
  exact absurd hget (by simp)

theorem Holds.adds (h : Holds K place d) (hadds : Adds (KeptIn K place) d d') :
    Holds K place d' := by
  intro key bytes e hget he
  rcases hadds _ bytes hget with hget | hkept
  · exact h key bytes e hget he
  · exact hkept key e rfl he

theorem Holds.noBundle (h : Holds K place d) (hadds : Adds (NoBundle place) d d') :
    Holds K place d' :=
  h.adds (hadds.mono fun _ _ hno => hno.keptIn)

namespace Cache

variable (c : Cache) (sourceId content : String)

/-- A hit is a bundle that the cache holds under the key of the app file. -/
theorem find_of_holds (h : Holds K c.place d) {version : String} {e : CachedBundle}
    (hhit : ((c.find sourceId content version).run d).1 = .hit e) :
    K (bundleKey sourceId content) e ∧ e.contentDigest = contentDigest content ∧
      e.toolchainVersion = version := by
  obtain ⟨bytes, hget, he, hsame⟩ := c.find_hit sourceId content version hhit
  exact ⟨h _ bytes e hget he, hsame⟩

theorem noBundle_draft (bytes : List UInt8) :
    NoBundle place ((c.draftPath sourceId content).target []) bytes := by
  obtain ⟨name, hdraft⟩ := c.target_draftPath sourceId content
  rw [hdraft]
  exact noBundle_of_ending (x := 'p') (by decide) (by decide) bytes

/-- Keeping a bundle adds no other one. -/
theorem writes_keptIn {e : CachedBundle} (hK : K (bundleKey sourceId content) e) :
    Writes (KeptIn K c.place) (c.writeBundle sourceId content e) := by
  intro d
  refine (c.writes_writeBundle sourceId content e d).mono fun p bytes hp => ?_
  rcases hp with ⟨name, hp⟩ | ⟨hp, hbytes⟩
  · rw [hp]
    exact (noBundle_of_ending (x := 'p') (by decide) (by decide) bytes).keptIn
  · intro key e' hkey he
    rw [hbytes, CachedBundle.ofBytes?_bundleText] at he
    have hname : key ++ ".json" = bundleName sourceId content :=
      Path.name_inj (hkey.symm.trans hp)
    have hsame : key = bundleKey sourceId content := (String.append_left_inj ".json").mp hname
    rw [hsame, he.2]
    exact hK

end Cache

end AppBundle

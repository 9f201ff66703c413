import Rollout.Comparer
import Rollout.Digest.Sha1
import Rollout.Rule.Distribution
import Rollout.Text.Quoted

/-!
# Settings

What an evaluation is given besides rules and context: the hash that makes buckets, and the
comparers that conditions may name.
-/

namespace Rollout

/-- The hash and the comparers of an engine. -/
structure Settings where
  /-- Makes the buckets of owners. -/
  hasher : Hasher
  registry : Registry

namespace Settings

/-- SHA-1 and no comparers. -/
def bare : Settings where
  hasher := Sha1.digest
  registry := .empty

/-- SHA-1 and the comparer for versions. -/
def standard : Settings where
  hasher := Sha1.digest
  registry := .standard

/-- The settings with another hash. -/
def withHasher (s : Settings) (hasher : Hasher) : Settings :=
  { s with hasher }

/-- The settings with one more comparer. -/
def withComparer (s : Settings) (name : String) (c : Comparer) : Settings :=
  { s with registry := s.registry.insert name c }

theorem namesOnce_bare : NamesOnce bare.registry.entries :=
  Registry.namesOnce_empty

theorem namesOnce_standard : NamesOnce standard.registry.entries :=
  Registry.namesOnce_standard

theorem namesOnce_withComparer {s : Settings} (h : NamesOnce s.registry.entries) (name : String)
    (c : Comparer) : NamesOnce (s.withComparer name c).registry.entries :=
  Registry.namesOnce_insert h name c

/-- Settings that are built up comparer by comparer know each name once. -/
theorem namesOnce_foldl_withComparer {s : Settings} (h : NamesOnce s.registry.entries)
    (added : List (String × Comparer)) :
    NamesOnce (added.foldl (fun s e => s.withComparer e.1 e.2) s).registry.entries := by
  induction added generalizing s with
  | nil => exact h
  | cons e rest ih => exact ih (namesOnce_withComparer h e.1 e.2)

/-- How settings are listed. -/
def listing (s : Settings) : String :=
  "EngineSettings \x7b comparers: [" ++ ", ".intercalate (s.registry.names.map Text.quoted)
    ++ "], .. \x7d"

end Settings

end Rollout

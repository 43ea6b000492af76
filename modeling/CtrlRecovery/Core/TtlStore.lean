import Mathlib.Data.Nat.Notation
import Mathlib.Data.Option.Basic
import Mathlib.Logic.Function.Basic

/-!
# Stores with a time to live

A value is kept under its key together with the time until which it is given back.
-/

namespace Core

structure TtlStore (κ ν : Type*) where
  entries : κ → Option (ν × ℕ)

namespace TtlStore

variable {κ ν : Type*} [DecidableEq κ]

def empty : TtlStore κ ν := ⟨fun _ => none⟩

def get (s : TtlStore κ ν) (now : ℕ) (k : κ) : Option ν :=
  ((s.entries k).filter fun entry => now ≤ entry.2).map Prod.fst

def set (s : TtlStore κ ν) (now : ℕ) (k : κ) (v : ν) (ttl : ℕ) : TtlStore κ ν :=
  ⟨Function.update s.entries k (some (v, now + ttl))⟩

def del (s : TtlStore κ ν) (k : κ) : TtlStore κ ν := ⟨Function.update s.entries k none⟩

/-- Another entry for a key, or none. -/
def change (s : TtlStore κ ν) (k : κ) (entry : Option (ν × ℕ)) : TtlStore κ ν :=
  ⟨Function.update s.entries k entry⟩

variable {s : TtlStore κ ν} {now ttl expiry : ℕ} {j k : κ} {v : ν}

omit [DecidableEq κ] in
lemma get_of_entry (h : s.entries k = some (v, expiry)) (hnow : now ≤ expiry) :
    s.get now k = some v := by
  simp [get, h, Option.filter_some, hnow]

@[simp] lemma entries_set_self : (s.set now k v ttl).entries k = some (v, now + ttl) := by
  simp [set]

lemma entries_set_of_ne (h : j ≠ k) : (s.set now k v ttl).entries j = s.entries j := by
  simp [set, h]

lemma entries_del_of_ne (h : j ≠ k) : (s.del k).entries j = s.entries j := by
  simp [del, h]

lemma entries_change_of_ne {entry : Option (ν × ℕ)} (h : j ≠ k) :
    (s.change k entry).entries j = s.entries j := by
  simp [change, h]

end TtlStore

end Core

import FlowScheduler.Entity.Entries

/-!
Named arguments: texts under names, in the ascending order of the names.
-/

namespace FlowScheduler

/-- Texts under names, each name once and in ascending order of code points. -/
@[ext] structure NamedArgs where
  entries : List (String × String)
  ascending : entries.Pairwise fun a b => a.1 < b.1
  deriving DecidableEq, Repr

namespace NamedArgs

instance : EmptyCollection NamedArgs := ⟨⟨[], .nil⟩⟩

/-- The arguments with one more; it takes the place of one of the same name. -/
def insert (args : NamedArgs) (name value : String) : NamedArgs :=
  ⟨Entries.insert name value args.entries, Entries.pairwise_insert args.ascending⟩

/-- The arguments of a list in which a later entry replaces an earlier one of the same name. -/
def ofList (entries : List (String × String)) : NamedArgs :=
  entries.foldl (fun args (n, v) => args.insert n v) ∅

/-- The arguments with every value changed. -/
def mapValues (f : String → String) (args : NamedArgs) : NamedArgs :=
  ⟨args.entries.map fun (n, v) => (n, f v), List.pairwise_map.2 args.ascending⟩

theorem names_nodup (args : NamedArgs) : (args.entries.map Prod.fst).Nodup := by
  refine List.pairwise_map.2 (args.ascending.imp fun {a b} hlt heq => ?_)
  rw [heq] at hlt
  exact Std.lt_irrefl hlt

end NamedArgs

end FlowScheduler

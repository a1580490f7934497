import KnativeMesh.Mesh
import KnativeMesh.Library.Joined

/-!
# What the flattened keys identify

Namespaced names and full keys are joins with a slash. A stored key comes
from fields without slashes, as Kubernetes guarantees for names, namespaces,
groups and kinds. A key that is looked up may come from arbitrary strings; it
equals a stored key only if all fields agree.
-/

namespace KnativeMesh.Keys

open Mesh Library.Joined

/-- The string contains no slash. -/
def SlashFree (s : String) : Prop := '/' ∉ s.toList

instance (s : String) : Decidable (SlashFree s) := inferInstanceAs (Decidable ('/' ∉ s.toList))

/-- A namespaced name is the join of its two fields. -/
theorem namespacedName_toList (ns name : String) :
    (namespacedName ns name).toList=['/'].intercalate [ns.toList,name.toList] := by
  simp [namespacedName,List.intercalate,List.intersperse]

/-- A full key is the join of its four fields. -/
theorem gkNamespacedName_toList (group kind ns name : String) :
    (gkNamespacedName group kind ns name).toList=
      ['/'].intercalate [group.toList,kind.toList,ns.toList,name.toList] := by
  simp [gkNamespacedName,List.intercalate,List.intersperse]

/-- A namespaced name without further slashes equals another one, of any
strings, only if namespace and name agree. -/
theorem namespacedName_eq_iff {ns name : String} (hns : SlashFree ns) (hname : SlashFree name)
    (ns' name' : String) :
    namespacedName ns name=namespacedName ns' name' ↔ ns=ns' ∧ name=name' := by
  constructor
  · intro h
    have hl := congrArg String.toList h
    rw [namespacedName_toList,namespacedName_toList] at hl
    have hfree : SeparatorFree '/' [ns.toList,name.toList] := by
      simpa [SeparatorFree,SlashFree] using And.intro hns hname
    have he := eq_of_intercalate_eq hfree (by rfl) hl
    simp only [List.cons.injEq,String.toList_inj,and_true] at he
    exact he
  · intro hp
    rcases hp with ⟨rfl,rfl⟩
    rfl

/-- Where namespaces are free of slashes, a namespaced name splits at its first
slash, whatever the names hold. -/
theorem namespacedName_eq_iff_of_nameSpace {ns ns' : String} (hns : SlashFree ns)
    (hns' : SlashFree ns') (name name' : String) :
    namespacedName ns name=namespacedName ns' name' ↔ ns=ns' ∧ name=name' := by
  constructor
  · intro h
    have hl := congrArg (splitFirst '/' ∘ String.toList) h
    have hsplit : ∀ {ns name : String}, SlashFree ns →
        (splitFirst '/' ∘ String.toList) (namespacedName ns name)=some (ns.toList,name.toList) := by
      intro ns name hfree
      have hlist : (namespacedName ns name).toList=ns.toList++ '/'::name.toList := by
        simp [namespacedName]
      dsimp only [Function.comp_apply]
      rw [hlist,splitFirst_append hfree]
    rw [hsplit hns,hsplit hns'] at hl
    have hpair := Prod.mk.inj (Option.some.inj hl)
    exact ⟨String.toList_inj.mp hpair.1,String.toList_inj.mp hpair.2⟩
  · intro hp
    rcases hp with ⟨rfl,rfl⟩
    rfl

/-- Qualifying a name that is qualified already never gives the namespaced
name of a resource: it holds one slash too many. -/
theorem namespacedName_ne_twice {ns name : String} (hns : SlashFree ns) (hname : SlashFree name)
    (outer inner name' : String) : namespacedName ns name≠namespacedName outer (namespacedName inner name') := by
  intro h
  have he := ((namespacedName_eq_iff hns hname _ _).mp h).2
  apply hname
  rw [he]
  simp [namespacedName]

/-- All four fields of a resource identity are free of slashes. -/
def GKSlashFree (gknn : GroupKindNamespacedName) : Prop :=
  SlashFree gknn.group ∧ SlashFree gknn.kind ∧ SlashFree gknn.nameSpace ∧ SlashFree gknn.name

instance (gknn : GroupKindNamespacedName) : Decidable (GKSlashFree gknn) := by
  dsimp only [GKSlashFree]
  infer_instance

/-- A full key without further slashes equals another one, of any strings,
only if all four fields agree. -/
theorem string_eq_iff {stored : GroupKindNamespacedName} (hfree : GKSlashFree stored)
    (gknn : GroupKindNamespacedName) : stored.string=gknn.string ↔ stored=gknn := by
  constructor
  · intro h
    have hl := congrArg String.toList h
    rw [GroupKindNamespacedName.string,GroupKindNamespacedName.string,
      gkNamespacedName_toList,gkNamespacedName_toList] at hl
    obtain ⟨hgroup,hkind,hns,hname⟩ := hfree
    have hfields : SeparatorFree '/' [stored.group.toList,stored.kind.toList,
        stored.nameSpace.toList,stored.name.toList] := by
      simpa [SeparatorFree,SlashFree] using And.intro hgroup (And.intro hkind (And.intro hns hname))
    have he := eq_of_intercalate_eq hfields (by rfl) hl
    simp only [List.cons.injEq,String.toList_inj,and_true] at he
    cases stored
    cases gknn
    simpa using he
  · intro h
    rw [h]

/-- Group and kind of brokers are free of slashes. -/
theorem broker_slashFree {ns name : String} (hns : SlashFree ns) (hname : SlashFree name) :
    GKSlashFree ⟨brokerGroup,brokerKind,ns,name⟩ := by
  have hgroup : SlashFree brokerGroup := by decide
  have hkind : SlashFree brokerKind := by decide
  exact ⟨hgroup,hkind,hns,hname⟩

end KnativeMesh.Keys

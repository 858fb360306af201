import WireModel.Pattern.Compiled
import WireModel.Proofs.Linking

/-! Names of generated functions. The function of a declaration is named after it, with the first
character in lower case. So two functions share a name exactly if their declarations differ in the
case of that character alone. References name declarations, and these are always told apart. -/
namespace WireModel

namespace Unicode

/-- The only character whose lower case is more than one character. -/
def dottedCapitalI : Char := Char.ofNat 0x130

def combiningDot : Char := Char.ofNat 0x307

@[simp]
theorem lowercase_dottedCapitalI : lowercase dottedCapitalI = ['i', combiningDot] := rfl

private theorem lowercase_of_ne {c : Char} (other : c ≠ dottedCapitalI) :
    ∃ d, lowercase c = [d] := by
  have code : c.toNat ≠ 0x130 := fun same => other (Char.toNat_inj.1 same)
  unfold lowercase
  rw [if_neg code]
  split
  · exact ⟨_, rfl⟩
  · exact ⟨_, rfl⟩

/-- A run with the letter `i` among its lower cases has it as that of the capital letter. -/
theorem covers_of_shift_eq_i {run : CaseRun} (member : run ∈ lowercaseRuns)
    (covers : run.covers (0x69 - run.shift).toNat) : (0x69 - run.shift).toNat = 0x49 := by
  have all : ∀ run ∈ lowercaseRuns,
      run.covers (0x69 - run.shift).toNat → (0x69 - run.shift).toNat = 0x49 := by decide +kernel
  exact all run member covers

private theorem of_ofNat_eq_i {code : Nat} (same : Char.ofNat code = 'i') : code = 0x69 := by
  by_cases valid : code.isValidChar
  · have read : Char.ofNat code = Char.ofNatAux code valid := dif_pos valid
    exact congrArg Char.toNat (read.symm.trans same)
  · have zero : Char.ofNat code = _ := dif_neg valid
    cases congrArg Char.toNat (zero.symm.trans same)

private theorem lowercase_eq_i {c : Char} : lowercase c = ['i'] ↔ c = 'i' ∨ c = 'I' := by
  constructor
  · intro same
    unfold lowercase at same
    split at same
    · simp at same
    · split at same
      · next run found =>
        have covers := List.find?_some found
        have shifted := of_ofNat_eq_i (List.singleton_inj.1 same)
        have back : (0x69 - run.shift).toNat = c.toNat := by omega
        have capital := covers_of_shift_eq_i (List.mem_of_find?_eq_some found) (back ▸ covers)
        rw [back] at capital
        exact .inr (Char.toNat_inj.1 capital)
      · exact .inl (List.singleton_inj.1 same)
  · rintro (rfl | rfl) <;> rfl

private theorem ofList_lowercase_ne_empty (c : Char) (rest : List Char) :
    String.ofList (lowercase c ++ rest) ≠ "" := by
  intro same
  have empty : lowercase c ++ rest = [] := by simpa using congrArg String.toList same
  by_cases dotted : c = dottedCapitalI
  · simp [dotted] at empty
  · obtain ⟨lower, single⟩ := lowercase_of_ne dotted
    simp [single] at empty

end Unicode

open Unicode

/-- Equal but for the case of the first character. A text that begins with the dotted capital is
like one that begins with the letter and the dot. -/
inductive AlikeChars : List Char → List Char → Prop
  | nil : AlikeChars [] []
  | first {c d rest} (same : lowercase c = lowercase d) : AlikeChars (c :: rest) (d :: rest)
  | dotted {c rest} (letter : c = 'i' ∨ c = 'I') :
      AlikeChars (dottedCapitalI :: rest) (c :: combiningDot :: rest)
  | undotted {c rest} (letter : c = 'i' ∨ c = 'I') :
      AlikeChars (c :: combiningDot :: rest) (dottedCapitalI :: rest)

/-- Names that differ in the case of their first characters at most. -/
def Alike (first second : String) : Prop :=
  AlikeChars first.toList second.toList

private theorem alike_cons {c d : Char} {rest rest' : List Char} :
    lowercase c ++ rest = lowercase d ++ rest' ↔ AlikeChars (c :: rest) (d :: rest') := by
  constructor
  · intro same
    by_cases dottedC : c = dottedCapitalI
    · by_cases dottedD : d = dottedCapitalI
      · subst dottedC dottedD
        obtain rfl := List.append_cancel_left same
        exact .first rfl
      · obtain ⟨lower, single⟩ := lowercase_of_ne dottedD
        subst dottedC
        rw [single, lowercase_dottedCapitalI] at same
        obtain ⟨rfl, rfl⟩ := List.cons.inj same
        exact .dotted (lowercase_eq_i.1 single)
    · obtain ⟨lower, single⟩ := lowercase_of_ne dottedC
      by_cases dottedD : d = dottedCapitalI
      · subst dottedD
        rw [single, lowercase_dottedCapitalI] at same
        obtain ⟨rfl, rfl⟩ := List.cons.inj same
        exact .undotted (lowercase_eq_i.1 single)
      · obtain ⟨lower', single'⟩ := lowercase_of_ne dottedD
        rw [single, single'] at same
        obtain ⟨rfl, rfl⟩ := List.cons.inj same
        exact .first (single.trans single'.symm)
  · intro alike
    cases alike with
    | first same => rw [same]
    | dotted letter =>
      rw [lowercase_eq_i.2 letter, lowercase_dottedCapitalI]
      rfl
    | undotted letter =>
      rw [lowercase_eq_i.2 letter, lowercase_dottedCapitalI]
      rfl

theorem decapitalize_eq_iff {first second : String} :
    decapitalize first = decapitalize second ↔ Alike first second := by
  unfold decapitalize Alike
  cases first.toList with
  | nil =>
    cases second.toList with
    | nil => exact iff_of_true rfl .nil
    | cons d rest =>
      refine iff_of_false (fun same => ?_) nofun
      exact ofList_lowercase_ne_empty d rest same.symm
  | cons c rest =>
    cases second.toList with
    | nil => exact iff_of_false (ofList_lowercase_ne_empty c rest) nofun
    | cons d rest' => exact String.ofList_inj.trans alike_cons

theorem decoderIdent_eq_iff {first second : String} :
    decoderIdent first = decoderIdent second ↔ Alike first second :=
  (String.append_left_inj _).trans decapitalize_eq_iff

theorem expression_eq_iff (style : ReferenceStyle) {first second : String} :
    style.expression first = style.expression second ↔ Alike first second := by
  cases style with
  | standalone => exact decoderIdent_eq_iff
  | codecAccessor =>
    exact (String.append_right_inj _).trans ((String.append_left_inj _).trans decapitalize_eq_iff)

/-- The function of a fragment has the name that its declaration gives it, it alone is exposed, and
it stands in the module of the options. -/
structure Fragment.Placed (options : Options) (fragment : Fragment) : Prop where
  name : fragment.function.name = decoderIdent fragment.declaration
  exposes : fragment.linkage.exposes = [fragment.function.name]
  module : fragment.linkage.module = options.module

section Report

variable {model : Model} {defaults : Defaults} {options : Options} {fragment other : Fragment}

private theorem placed_of_requestedFragment {declaration : Declaration Classification}
    (requested : requestedFragment defaults options declaration = .ok fragment) :
    fragment.Placed options := by
  unfold requestedFragment at requested
  split at requested
  · cases requested
  · split at requested
    · cases requested
    · obtain ⟨body, _, requested⟩ := bind_eq_ok.1 requested
      obtain ⟨doc, _, rfl⟩ := return_eq_ok.1 requested
      exact ⟨rfl, rfl, rfl⟩
    · cases requested

theorem placed_of_mem (member : fragment ∈ (generate defaults options model).fragments) :
    fragment.Placed options := by
  obtain ⟨declaration, _, requested⟩ := mem_fragments.1 member
  exact placed_of_requestedFragment requested

theorem Fragment.Placed.name_eq_iff (placed : fragment.Placed options) {target : String} :
    fragment.function.name = decoderIdent target ↔ Alike fragment.declaration target := by
  rw [placed.name, decoderIdent_eq_iff]

theorem Fragment.Placed.disjoint_iff (placed : fragment.Placed options)
    (placed' : other.Placed options) :
    fragment.linkage.exposes.Disjoint other.linkage.exposes ↔
      fragment.function.name ≠ other.function.name := by
  rw [placed.exposes, placed'.exposes, List.singleton_disjoint, List.mem_singleton]

theorem nodup_functionNames_iff :
    ((generate defaults options model).fragments.map (·.function.name)).Nodup ↔
      (generate defaults options model).fragments.Pairwise fun fragment other =>
        ¬Alike fragment.declaration other.declaration := by
  unfold List.Nodup
  rw [List.pairwise_map]
  refine List.Pairwise.iff_of_mem fun {fragment other} member member' => not_congr ?_
  rw [(placed_of_mem member').name]
  exact (placed_of_mem member).name_eq_iff

theorem disjoint_exposes_iff :
    (generate defaults options model).fragments.Pairwise
        (fun fragment other => fragment.linkage.exposes.Disjoint other.linkage.exposes) ↔
      ((generate defaults options model).fragments.map (·.function.name)).Nodup := by
  unfold List.Nodup
  rw [List.pairwise_map]
  exact List.Pairwise.iff_of_mem fun member member' =>
    (placed_of_mem member).disjoint_iff (placed_of_mem member')

theorem exists_fragment_of_complete (complete : (generate defaults options model).isComplete)
    {name : String} {declaration : Declaration Classification}
    (found : model.find? name = some declaration) :
    ∃ fragment ∈ (generate defaults options model).fragments, fragment.declaration = name := by
  have among := List.mem_of_find?_eq_some found
  obtain ⟨fragment, requested⟩ := requestedFragment_of_complete complete among
  have named : declaration.name = name := by simpa using List.find?_some found
  exact ⟨fragment, mem_fragments.2 ⟨declaration, among, requested⟩,
    (requestedFragment_eq_ok requested).1.trans named⟩

end Report

section Compiled

variable [Pattern.Engine] {draft : Draft} {properties : Properties} {processors : List Processor}
  {compiled : Compiled}

/-- All functions of a report stand in one module, and each declaration has at most one. Their names
are distinct, and so is what they expose, exactly as long as no two of the declarations are alike. A
call always leads to one declaration. It leads to one function as well unless another function is of
a declaration like the one that is called. -/
theorem function_names_exact (compiles : compile draft properties processors = .ok compiled)
    (options : Options) :
    (∀ fragment ∈ (compiled.report options).fragments, fragment.Placed options) ∧
    ((compiled.report options).fragments.map (·.declaration)).Nodup ∧
    (((compiled.report options).fragments.map (·.function.name)).Nodup ↔
      (compiled.report options).fragments.Pairwise fun fragment other =>
        ¬Alike fragment.declaration other.declaration) ∧
    ((compiled.report options).fragments.Pairwise
        (fun fragment other => fragment.linkage.exposes.Disjoint other.linkage.exposes) ↔
      (compiled.report options).fragments.Pairwise fun fragment other =>
        ¬Alike fragment.declaration other.declaration) ∧
    ∀ fragment ∈ (compiled.report options).fragments, ∀ target style,
      fragment.function.body.Contains (.call target style) →
      (∃ declaration, compiled.model.find? target = some declaration) ∧
      (∀ name, style.expression name = style.expression target ↔ Alike name target) ∧
      (∀ callee ∈ (compiled.report options).fragments,
        callee.function.name = ReferenceStyle.standalone.expression target ↔
          Alike callee.declaration target) ∧
      ((compiled.report options).isComplete →
        ∃ callee ∈ (compiled.report options).fragments, callee.declaration = target ∧
          callee.function.name = ReferenceStyle.standalone.expression target ∧
          (((compiled.report options).fragments.map (·.function.name)).Nodup →
            ∀ other ∈ (compiled.report options).fragments,
              other.function.name = ReferenceStyle.standalone.expression target →
                other = callee)) := by
  have wellScoped := compiled_wellScoped compiles
  refine ⟨fun fragment => placed_of_mem, wellScoped.names.sublist fragments_sublist,
    nodup_functionNames_iff, disjoint_exposes_iff.trans nodup_functionNames_iff,
    fun fragment member target style calls => ?_⟩
  obtain ⟨declaration, found⟩ :=
    (linked_of_wellScoped wellScoped member).declared _ target calls rfl
  refine ⟨⟨declaration, found⟩, fun name => expression_eq_iff style,
    fun callee among => (placed_of_mem among).name_eq_iff, fun complete => ?_⟩
  obtain ⟨callee, among, rfl⟩ := exists_fragment_of_complete complete found
  have named := (placed_of_mem among).name
  refine ⟨callee, among, rfl, named, fun distinct other among' same => ?_⟩
  exact List.inj_on_of_nodup_map distinct among' among (same.trans named.symm)

end Compiled

section Program

attribute [local instance] Pattern.regexEngine

theorem function_names_exact_routes :
    ∃ compiled, compile routesDraft ∅ [.coding] = .ok compiled ∧
      ∀ options,
        (compiled.report options).fragments.map (·.function.name) =
          ["levelDecoder", "portDecoder", "routesDecoder"] ∧
        (compiled.report options).fragments.Pairwise
          (fun fragment other => fragment.linkage.exposes.Disjoint other.linkage.exposes) ∧
        ∃ callee ∈ (compiled.report options).fragments, callee.declaration = "Routes" ∧
          ∀ other ∈ (compiled.report options).fragments,
            other.function.name = "routesDecoder" → other = callee := by
  obtain ⟨compiled, compiles⟩ : ∃ compiled, compile routesDraft ∅ [.coding] = .ok compiled :=
    ⟨_, rfl⟩
  refine ⟨compiled, compiles, fun options => ?_⟩
  obtain ⟨_, _, distinctIff, disjointIff, calls⟩ := function_names_exact compiles options
  cases compiles
  have distinct : ["levelDecoder", "portDecoder", "routesDecoder"].Nodup := by decide
  refine ⟨rfl, disjointIff.2 (distinctIff.1 distinct), ?_⟩
  obtain ⟨_, _, _, resolves⟩ := calls _ (.tail _ (.tail _ (.head _))) "Routes" options.references
    (((Relation.ReflTransGen.refl.tail .dict).tail .dict).tail .nullable)
  obtain ⟨callee, among, named, _, unique⟩ := resolves rfl
  exact ⟨callee, among, named, unique distinct⟩

end Program

def twinsDraft : Draft where
  declarations := [
    { name := "User", body := .alias (.basic {} .int), info := decodedInfo },
    { name := "user", body := .alias (.basic {} .string), info := decodedInfo },
    { name := "Account", body := .alias (.named {} "User" ()), info := decodedInfo }]
  wellScoped := by decide

section Program

attribute [local instance] Pattern.regexEngine

/-- Two functions of one name, one that reads integers and one that reads strings. -/
theorem function_names_clash :
    ∃ compiled, compile twinsDraft ∅ [.coding] = .ok compiled ∧
      ∃ options, Options.ofModel compiled.defaults compiled.model = .ok options ∧
        (compiled.report options).isComplete ∧
        (compiled.report options).fragments.map (fun f => (f.declaration, f.function.name)) =
          [("User", "userDecoder"), ("user", "userDecoder"), ("Account", "accountDecoder")] ∧
        ¬((compiled.report options).fragments.map (·.function.name)).Nodup ∧
        ¬(compiled.report options).fragments.Pairwise
          (fun fragment other => fragment.linkage.exposes.Disjoint other.linkage.exposes) := by
  refine ⟨_, rfl, _, rfl, rfl, rfl, ?_, ?_⟩
  · show ¬["userDecoder", "userDecoder", "accountDecoder"].Nodup
    decide
  · rw [disjoint_exposes_iff]
    show ¬["userDecoder", "userDecoder", "accountDecoder"].Nodup
    decide

end Program

end WireModel

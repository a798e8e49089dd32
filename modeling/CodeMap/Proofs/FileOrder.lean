/-
The order of the files.

The passes visit the files of a project in some order. What the file of the model holds about the
project itself does not depend on it, if the files have no names in common and no name is foreign
(`file_order_irrelevant`): the first pass puts together what each file enters alone, and the other
two record what each file contributes. The names of external code depend on it in one point: whether
a name is marked twice (`external_names_up_to_marks`, `doubleMark_order`).
-/

import CodeMap.Proofs.Apart
import CodeMap.Proofs.Comparison
import CodeMap.Proofs.Repetition

namespace CodeMap

open Source Usage

/-! ### Project and external code in a model file -/

namespace Mse.Contents

/-- The objects that the project defines. -/
def ownDescriptions (contents : Contents) : List Description :=
  contents.descriptions.filter (·.technicalType ≠ Role.external.technicalType)

/-- The unique names of the external code. -/
def externalNames (contents : Contents) : List String :=
  (contents.descriptions.filter (·.technicalType = Role.external.technicalType)).map
    (·.uniqueName)

/-- The object of this unique name is one that the project defines. -/
def isOwn (contents : Contents) (name : String) : Bool :=
  contents.ownDescriptions.any (·.uniqueName = name)

/-- The relations between unique names, except calls that go beyond the project. -/
def ownRelations (contents : Contents) : List (Relation String) :=
  contents.namedRelations.filter fun
    | .call caller called => contents.isOwn caller && contents.isOwn called
    | _ => true

end Mse.Contents

theorem Role.technicalType_eq_external_iff {role : Role} :
    role.technicalType = Role.external.technicalType ↔ role = .external := by
  cases role <;> simp [technicalType]

namespace Model.Resolved

variable {model : Model} {definitions : List (String × Kind)}

theorem objects_eq (resolved : model.Resolved definitions) :
    model.contents.objects = model.allElements.entries.map fun entry =>
      (model.numberOf entry.1, Mse.Description.ofElement entry.2) := by
  rw [contents, Mse.Contents.ofRecords, resolved.numberedElements_records, List.map_map]
  rfl

theorem descriptions_eq (resolved : model.Resolved definitions) :
    model.contents.descriptions = model.allElements.values.map Mse.Description.ofElement := by
  rw [Mse.Contents.descriptions, resolved.objects_eq, List.map_map, Table.values, List.map_map]
  rfl

theorem own_iff (resolved : model.Resolved definitions) {name : String} {element : Element} :
    model.allElements.get? name = some element ∧ element.role ≠ .external ↔
      model.elements.get? name = some element := by
  rw [get?_allElements, Option.or_eq_some_iff]
  constructor
  · rintro ⟨own | ⟨-, met⟩, notExternal⟩
    · exact own
    · exact absurd (resolved.externals _ (model.mem_of_get?_externalTable met).1) notExternal
  · exact fun own => ⟨.inl own, resolved.own own⟩

theorem ownDescriptions_perm (resolved : model.Resolved definitions) :
    model.contents.ownDescriptions.Perm
      (model.elements.values.map Mse.Description.ofElement) := by
  have entries : (model.allElements.entries.filter (·.2.role ≠ .external)).Perm
      model.elements.entries := by
    rw [List.perm_ext_iff_of_nodup]
    · rintro ⟨name, element⟩
      rw [List.mem_filter, ← Table.get?_eq_some_iff, ← Table.get?_eq_some_iff, ← resolved.own_iff]
      simp
    · exact (List.Nodup.of_map _ model.allElements.distinct).filter _
    · exact List.Nodup.of_map _ model.elements.distinct
  have same : model.contents.ownDescriptions =
      (model.allElements.entries.filter (·.2.role ≠ .external)).map fun entry =>
        Mse.Description.ofElement entry.2 := by
    rw [Mse.Contents.ownDescriptions, resolved.descriptions_eq, Table.values, List.map_map,
      List.filter_map]
    refine congrArg (List.map _) (List.filter_congr fun entry _ => ?_)
    simp [Function.comp_def, Mse.Description.ofElement, Element.technicalType,
      Role.technicalType_eq_external_iff]
  rw [same, Table.values, List.map_map]
  exact entries.map _

theorem isOwn_iff (resolved : model.Resolved definitions) {name : String} :
    model.contents.isOwn name = true ↔ name ∈ model.elements.keys := by
  rw [Mse.Contents.isOwn, resolved.ownDescriptions_perm.any_eq, Table.mem_keys_iff, List.any_map,
    List.any_eq_true]
  constructor
  · rintro ⟨element, member, named⟩
    obtain ⟨entry, listed, rfl⟩ := List.mem_map.mp member
    have found := Table.get?_eq_some_iff.mpr listed
    have named : entry.2.uniqueName = name := of_decide_eq_true named
    rw [resolved.keyed found] at named
    exact ⟨entry.2, named ▸ found⟩
  · rintro ⟨element, found⟩
    refine ⟨element, List.mem_map.mpr ⟨_, Table.get?_eq_some_iff.mp found, rfl⟩, ?_⟩
    exact decide_eq_true (resolved.keyed found)

theorem mem_externalNames_iff (resolved : model.Resolved definitions) {name : String} :
    name ∈ model.contents.externalNames ↔
      ∃ element, model.allElements.get? name = some element ∧ element.role = .external := by
  rw [Mse.Contents.externalNames, resolved.descriptions_eq, Table.values]
  simp only [List.mem_map, List.mem_filter, decide_eq_true_eq]
  constructor
  · rintro ⟨_, ⟨⟨_, ⟨entry, listed, rfl⟩, rfl⟩, external⟩, rfl⟩
    have found := Table.get?_eq_some_iff.mpr listed
    refine ⟨entry.2, ?_, Role.technicalType_eq_external_iff.mp external⟩
    rw [show (Mse.Description.ofElement entry.2).uniqueName = entry.2.uniqueName from rfl,
      resolved.uniqueName_of_get? found]
    exact found
  · rintro ⟨element, found, external⟩
    refine ⟨_, ⟨⟨element, ⟨_, Table.get?_eq_some_iff.mp found, rfl⟩, rfl⟩, ?_⟩, ?_⟩
    · exact Role.technicalType_eq_external_iff.mpr external
    · exact resolved.uniqueName_of_get? found

/-- The number of a name leads back to it. -/
theorem nameOf_numberOf (resolved : model.Resolved definitions) {name : String}
    (known : name ∈ model.allElements.keys) :
    model.contents.nameOf (model.numberOf name) = name := by
  obtain ⟨element, found⟩ := Table.mem_keys_iff.mp known
  have ids : (model.contents.objects.map Prod.fst).Nodup := by
    have ids := resolved.intact.ids.nodup_iff.mpr List.nodup_range'
    simpa only [contents, Mse.Contents.ofRecords, List.map_map, Function.comp_def] using ids
  have object : model.contents.object? (model.numberOf name) =
      some (Mse.Description.ofElement element) := by
    rw [Mse.Contents.object?_eq_some_iff ids, resolved.objects_eq]
    exact List.mem_map_of_mem (Table.get?_eq_some_iff.mp found)
  rw [Mse.Contents.nameOf, object]
  exact resolved.uniqueName_of_get? found

theorem nameOf_mentioned (resolved : model.Resolved definitions) {name : String}
    (mentioned : name ∈ model.mentioned) :
    model.contents.nameOf (model.numberOf name) = name := by
  refine resolved.nameOf_numberOf (model.isSome_numbering_iff.mp ?_)
  rw [resolved.numbered mentioned]
  rfl

theorem relations_eq (resolved : model.Resolved definitions) :
    model.contents.relations =
      (model.containments.toList.map fun containment =>
        .parentChild (model.numberOf containment.parent.uniqueName)
          (model.numberOf containment.child.uniqueName) true) ++
      (model.calls.toList.filterMap fun call => call.caller.map fun caller =>
        .call (model.numberOf caller) (model.numberOf call.called)) ++
      model.accesses.toList.map fun access =>
        .access (model.numberOf access.accessor) (model.numberOf access.accessed) access.isWrite
          access.isRead access.isDependent := by
  have none (entries : List (String × Element)) :
      entries.filterMap (fun entry =>
        (Mse.Record.element (model.numberOf entry.1) entry.2).relation?) = [] :=
    List.filterMap_eq_nil_iff.mpr fun _ _ => rfl
  rw [contents, Mse.Contents.ofRecords, resolved.records_eq]
  simp only [List.filterMap_append, List.filterMap_map, List.filterMap_filterMap,
    Function.comp_def, none, List.nil_append]
  refine congrArg₂ _ (congrArg₂ _ ?_ ?_) ?_
  · exact List.filterMap_eq_map_iff_forall_eq_some.mpr fun _ _ => rfl
  · refine List.filterMap_congr fun call _ => ?_
    cases call.caller <;> rfl
  · exact List.filterMap_eq_map_iff_forall_eq_some.mpr fun _ _ => rfl

/-- With unique names in place of numbers, the relations are as they were recorded. -/
theorem namedRelations_eq (resolved : model.Resolved definitions) :
    model.contents.namedRelations =
      (model.containments.toList.map fun containment =>
        .parentChild containment.parent.uniqueName containment.child.uniqueName true) ++
      (model.calls.toList.filterMap fun call => call.caller.map fun caller =>
        .call caller call.called) ++
      model.accesses.toList.map fun access =>
        .access access.accessor access.accessed access.isWrite access.isRead
          access.isDependent := by
  rw [Mse.Contents.namedRelations, resolved.relations_eq, List.map_append, List.map_append,
    List.map_map, List.map_map, List.map_filterMap]
  refine congrArg₂ _ (congrArg₂ _ ?_ ?_) ?_
  · refine List.map_congr_left fun containment recorded => ?_
    simp only [Function.comp_apply, Mse.Relation.map,
      resolved.nameOf_mentioned (mentioned_of_containment ⟨recorded⟩ (.inl rfl)),
      resolved.nameOf_mentioned (mentioned_of_containment ⟨recorded⟩ (.inr rfl))]
  · refine List.filterMap_congr fun call recorded => ?_
    cases isCaller : call.caller with
    | none => rfl
    | some caller =>
      simp only [Option.map_some, Mse.Relation.map,
        resolved.nameOf_mentioned (mentioned_of_call ⟨recorded⟩ (.inl isCaller)),
        resolved.nameOf_mentioned (mentioned_of_call ⟨recorded⟩ (.inr rfl))]
  · refine List.map_congr_left fun access recorded => ?_
    simp only [Function.comp_apply, Mse.Relation.map,
      resolved.nameOf_mentioned (mentioned_of_access ⟨recorded⟩ (.inl rfl)),
      resolved.nameOf_mentioned (mentioned_of_access ⟨recorded⟩ (.inr rfl))]

/-- A call within the project is one of what the project defines, as its caller is always. -/
theorem ownRelations_eq (resolved : model.Resolved definitions) :
    model.contents.ownRelations =
      (model.containments.toList.map fun containment =>
        .parentChild containment.parent.uniqueName containment.child.uniqueName true) ++
      (model.ownCalls.filterMap fun call => call.caller.map fun caller =>
        .call caller call.called) ++
      model.accesses.toList.map fun access =>
        .access access.accessor access.accessed access.isWrite access.isRead
          access.isDependent := by
  rw [Mse.Contents.ownRelations, resolved.namedRelations_eq, List.filter_append,
    List.filter_append, ownCalls, List.filterMap_filter, List.filter_filterMap]
  refine congrArg₂ _ (congrArg₂ _ ?_ ?_) ?_
  · refine List.filter_eq_self.mpr fun relation member => ?_
    obtain ⟨containment, -, rfl⟩ := List.mem_map.mp member
    rfl
  · refine List.filterMap_congr fun call recorded => ?_
    cases isCaller : call.caller with
    | none => simp
    | some caller =>
      have defined := resolved.callers call ⟨recorded⟩ caller isCaller
      have own : model.contents.isOwn caller = true :=
        resolved.isOwn_iff.mpr (resolved.defined defined).1
      have called : model.contents.isOwn call.called = model.elements.contains call.called := by
        rw [Bool.eq_iff_iff, resolved.isOwn_iff, Table.contains_iff]
      simp [Option.filter, own, called]
  · refine List.filter_eq_self.mpr fun relation member => ?_
    obtain ⟨access, -, rfl⟩ := List.mem_map.mp member
    rfl

end Model.Resolved

/-! ### The passes in two orders -/

theorem Table.mem_unnumbered_iff {table : Table Element} {name : String} {element : Element} :
    (name, element) ∈ table.entries.map (fun entry => (entry.1, entry.2.unnumbered)) ↔
      (table.get? name).map Element.unnumbered = some element := by
  simp only [List.mem_map, Prod.mk.injEq, Prod.exists, Option.map_eq_some_iff,
    Table.get?_eq_some_iff]
  constructor
  · rintro ⟨_, found, member, rfl, same⟩
    exact ⟨found, member, same⟩
  · rintro ⟨found, member, same⟩
    exact ⟨name, found, member, rfl, same⟩

/-- Tables in which the same is found hold the same descriptions. -/
theorem Table.descriptions_perm {table other : Table Element}
    (same : ∀ name, (table.get? name).map Element.unnumbered =
      (other.get? name).map Element.unnumbered) :
    (table.values.map Mse.Description.ofElement).Perm
      (other.values.map Mse.Description.ofElement) := by
  have distinct (table : Table Element) :
      (table.entries.map fun entry => (entry.1, entry.2.unnumbered)).Nodup := by
    refine List.Nodup.of_map Prod.fst ?_
    rw [List.map_map]
    exact table.distinct
  have entries : (table.entries.map fun entry => (entry.1, entry.2.unnumbered)).Perm
      (other.entries.map fun entry => (entry.1, entry.2.unnumbered)) := by
    rw [List.perm_ext_iff_of_nodup (distinct table) (distinct other)]
    rintro ⟨name, element⟩
    rw [Table.mem_unnumbered_iff, Table.mem_unnumbered_iff, same name]
  have described (table : Table Element) : table.values.map Mse.Description.ofElement =
      (table.entries.map fun entry => (entry.1, entry.2.unnumbered)).map fun entry =>
        Mse.Description.ofElement entry.2 := by
    rw [Table.values, List.map_map, List.map_map]
    rfl
  rw [described table, described other]
  exact entries.map _

namespace Extraction

variable {order : Arrangement String} {files others : List ReadFile}

theorem firstPass_collected (apart : files.Pairwise ReadFile.Apart) :
    Collected files (firstPass files) :=
  have collected := collectAll_collected apart
  ⟨collected.elements, collected.symbols, collected.containments⟩

section TwoOrders

variable (perm : files.Perm others) (domestic : ∀ file ∈ files, file.Domestic)
  (apart : files.Pairwise ReadFile.Apart)

include perm apart

theorem collected_others : Collected others (firstPass others) :=
  firstPass_collected ((perm.pairwise_iff ReadFile.Apart.symm).mp apart)

/-- The same elements are defined. -/
theorem lookup_firstPass (name : String) :
    ((firstPass files).elements.get? name).map Element.unnumbered =
      ((firstPass others).elements.get? name).map Element.unnumbered :=
  (firstPass_collected apart).elements.lookup_eq (collected_others perm apart).elements perm name

theorem containments_perm :
    ((firstPass files).containments.toList.map Containment.names).Perm
      ((firstPass others).containments.toList.map Containment.names) := by
  rw [(firstPass_collected apart).containments, (collected_others perm apart).containments]
  exact perm.flatMap_right _

include domestic

/-- The names stand for elements alike. -/
theorem firstPass_covered : (firstPass files).CoveredBy (firstPass others) where
  separated :=
    (firstPass_domestic fun file member => domestic file (perm.mem_iff.mpr member)).separated
  agree {name} _ := by
    have same := (firstPass_collected apart).symbols.lookup_eq
      (collected_others perm apart).symbols perm name
    unfold Model.symbol?
    generalize (firstPass files).symbols.get? name = found,
      (firstPass others).symbols.get? name = found' at same ⊢
    cases found with
    | none =>
      cases found' with
      | none => exact .none
      | some element => cases same
    | some element =>
      cases found' with
      | none => cases same
      | some other =>
        have same := Option.some.inj same
        rw [Element.unnumbered, Element.unnumbered, Element.mk.injEq] at same
        exact .some ⟨same.2.2.1, same.2.2.2.1⟩

/-- The passes record the same usages. -/
theorem usages_perm :
    (thirdPass order files).ownCalls.Perm (thirdPass order others).ownCalls ∧
      (thirdPass order files).accesses.toList.Perm (thirdPass order others).accesses.toList := by
  have domestic' : ∀ file ∈ others, file.Domestic :=
    fun file member => domestic file (perm.mem_iff.mpr member)
  have isBare := firstPass_bare domestic
  have covered := isBare.toDomestic.covered
  have covered' := firstPass_covered perm domestic apart
  have second := secondPass_usages order isBare covered domestic
  have second' := secondPass_usages order isBare covered' domestic'
  have third := thirdPass_usages order isBare covered domestic
  have third' := thirdPass_usages order isBare covered' domestic'
  refine ⟨?_, ?_⟩
  · have elements (files : List ReadFile) :
        (thirdPass order files).elements = (firstPass files).elements :=
      (analyseAll_elements order _ files).trans (analyseAll_elements order _ files)
    have defined : (fun call : Call => (firstPass others).elements.contains call.called) =
        fun call => (firstPass files).elements.contains call.called := by
      funext call
      have lookup := congrArg Option.isSome (lookup_firstPass perm apart call.called)
      rw [Option.isSome_map, Option.isSome_map] at lookup
      exact lookup.symm
    rw [ownCalls_eq domestic (elements files), ownCalls_eq domestic' (elements others), defined,
      third.1, third'.1, second.1, second'.1]
    exact ((perm.flatMap_right _).append (perm.flatMap_right _)).filter _
  · rw [third.2, third'.2, second.2, second'.2]
    exact (perm.flatMap_right _).append (perm.flatMap_right _)

end TwoOrders

end Extraction

/-- If no name of the files is foreign and they have no names in common, the order in which the
passes visit them does not matter for the project's own model: the model file describes the same
elements of the project, and it has the same containments, the same accesses and the same calls
within the project, each as often. This holds with any order of the types of parameters. -/
theorem file_order_irrelevant (typeOrder : Arrangement String) (files others : List ReadFile)
    (perm : files.Perm others) (domestic : ∀ file ∈ files, file.Domestic)
    (apart : files.Pairwise ReadFile.Apart) :
    let first := (Model.ofFiles typeOrder files).contents
    let second := (Model.ofFiles typeOrder others).contents
    first.ownDescriptions.Perm second.ownDescriptions ∧
      first.ownRelations.Perm second.ownRelations := by
  intro first second
  have resolved := Model.ofFiles_resolved typeOrder files
  have resolved' := Model.ofFiles_resolved typeOrder others
  have analysed := Model.ofFiles_analysed typeOrder files
  have analysed' := Model.ofFiles_analysed typeOrder others
  obtain ⟨calls, accesses⟩ := Extraction.usages_perm perm domestic apart
  refine ⟨?_, ?_⟩
  · refine resolved.ownDescriptions_perm.trans (.trans ?_ resolved'.ownDescriptions_perm.symm)
    rw [analysed.elements, analysed'.elements]
    exact Table.descriptions_perm (Extraction.lookup_firstPass perm apart)
  · have containments := (Extraction.containments_perm perm apart).map fun names =>
      Mse.Relation.parentChild names.1 names.2 true
    rw [List.map_map, List.map_map] at containments
    rw [resolved.ownRelations_eq, resolved'.ownRelations_eq, analysed.containments,
      analysed'.containments]
    exact (containments.append (calls.filterMap _)).append (accesses.map _)

/-- A class with a method and an attribute, and a function of another file that uses them. -/
def usingProject : Project where
  name := "p"
  folder := "/"
  files :=
    [{ path := "p/a.py"
       inner := ["a.py"]
       bytes := "class A:\n def m(self):\n  self.n = 0\n".toUTF8.toList },
     { path := "p/b.py"
       inner := ["b.py"]
       bytes := "from p.a import A\ndef g():\n x = A()\n x.m()\n h(x.n)\n".toUTF8.toList }]

/-- The relations come in another order, but they are the same. -/
theorem usingProject_order :
    let files := usingProject.readFiles
    let first := (Model.ofFiles .ascending files).contents
    let second := (Model.ofFiles .ascending files.reverse).contents
    ((∀ file ∈ files, file.Domestic) ∧ files.Pairwise ReadFile.Apart) ∧
      (.call "p.b.g" "p.a.A.m" ∈ first.ownRelations ∧
        first.ownRelations ≠ second.ownRelations) ∧
      first.ownDescriptions.Perm second.ownDescriptions ∧
        first.ownRelations.Perm second.ownRelations := by
  intro files first second
  have domestic : ∀ file ∈ files, file.Domestic := by decide +kernel
  have apart : files.Pairwise ReadFile.Apart := by decide +kernel
  refine ⟨⟨domestic, apart⟩, by decide +kernel, ?_⟩
  exact file_order_irrelevant .ascending files files.reverse files.reverse_perm.symm domestic apart

/-! ### The names of external code -/

namespace Extraction

variable {order : Arrangement String} {files others : List ReadFile}

/-- External code in the model file is what foreign names stand for in the end. -/
theorem mem_externalNames_iff (domestic : ∀ file ∈ files, file.Domestic) {name : String} :
    name ∈ (Model.ofFiles order files).contents.externalNames ↔
      Foreign name ∧ (thirdPass order files).knows name := by
  have resolved := Model.ofFiles_resolved order files
  have analysed := Model.ofFiles_analysed order files
  have first := firstPass_domestic domestic
  have widens := (secondPass_widens order files).trans (thirdPass_widens order files)
  rw [resolved.mem_externalNames_iff]
  constructor
  · rintro ⟨element, found, external⟩
    rw [Model.get?_allElements, Option.or_eq_some_iff] at found
    rcases found with own | ⟨-, met⟩
    · exact absurd external (resolved.own own)
    · obtain ⟨listed, rfl⟩ := Model.mem_of_get?_externalTable _ met
      have stands : (thirdPass order files).symbol? element.uniqueName = some element := by
        refine (widens.listed listed).resolve_left fun before => ?_
        obtain ⟨entered, collecting, -⟩ := collectAll_collecting {} files
        have none : (firstPass files).externals = #[] := collecting.usages_eq.2.2
        simp [none] at before
      refine ⟨?_, Model.knows_iff.mpr ⟨element, stands⟩⟩
      rcases widens.new stands with before | ⟨isForeign, -⟩
      · obtain ⟨entered, collecting, -⟩ := collectAll_collecting {} files
        exact absurd external ((collecting.symbol? before).resolve_left nofun).2.2
      · exact isForeign
  · rintro ⟨isForeign, known⟩
    obtain ⟨element, stands⟩ := Model.knows_iff.mp known
    obtain ⟨-, isExternal, named, met⟩ :=
      (analysed.symbols stands).resolve_left fun before => (first.symbols before).1 isForeign
    have listed := (Model.ofFiles order files).mem_keys_externalTable.mpr ⟨element, met, named⟩
    obtain ⟨entered, found⟩ := Table.mem_keys_iff.mp listed
    refine ⟨entered, ?_, resolved.externals _ (Model.mem_of_get?_externalTable _ found).1⟩
    have undefined : (Model.ofFiles order files).elements.get? name = none := by
      rw [analysed.elements, ← Option.not_isSome_iff_eq_none, ← Table.contains, Table.contains_iff]
      exact fun defined => first.elements name defined isForeign
    rw [Model.get?_allElements, undefined, Option.none_or, found]

section Alone

variable {bare : Model} (isBare : bare.Bare) (covered : bare.CoveredBy (firstPass files))
  (domestic : ∀ file ∈ files, file.Domestic)

include isBare covered domestic

/-- External code has been met in one of the files, as it is met alone. -/
theorem exists_alone_of_knows {name : String} (isForeign : Foreign name)
    (known : (thirdPass order files).knows name) :
    ∃ file ∈ files, (analyseFile order bare file).knows name := by
  rcases (thirdPass_contributed order isBare covered domestic).within known with known | alone
  · rcases (secondPass_contributed order isBare covered domestic).within known with known | alone
    · have first := firstPass_domestic domestic
      exact absurd known (first.not_knows isForeign)
    · exact alone
  · exact alone

end Alone

section TwoOrders

variable (perm : files.Perm others) (domestic : ∀ file ∈ files, file.Domestic)
  (apart : files.Pairwise ReadFile.Apart)

include perm domestic apart

/-- External code that is met in one order is met in the other one, unless its name goes on from
that of external code. -/
theorem knows_of_order {name : String} (isForeign : Foreign name)
    (known : (thirdPass order files).knows name) :
    ∃ own, name = externalMark ++ own ∧ Tame Foreign own ∧
      ((thirdPass order others).knows name ∨ Foreign own ∧ (thirdPass order others).knows own) := by
  have isBare := firstPass_bare domestic
  obtain ⟨file, member, alone⟩ :=
    exists_alone_of_knows isBare isBare.toDomestic.covered domestic isForeign known
  have contribution := analyseFile_contribution order isBare.toDomestic isBare.toDomestic.covered
    (domestic file member)
  obtain ⟨own, rfl, tame⟩ := contribution.marked alone isForeign
  have contributed := thirdPass_contributed order isBare (firstPass_covered perm domestic apart)
    fun file member => domestic file (perm.mem_iff.mpr member)
  exact ⟨own, rfl, tame, contributed.met file (perm.mem_iff.mp member) alone⟩

/-- A name with one mark is met in both orders. -/
theorem knows_of_order_of_not_foreign {own : String} (notForeign : ¬ Foreign own)
    (known : (thirdPass order files).knows (externalMark ++ own)) :
    (thirdPass order others).knows (externalMark ++ own) := by
  obtain ⟨own', same, -, either⟩ :=
    knows_of_order perm domestic apart (foreign_externalMark own) known
  obtain rfl := (String.append_right_inj _).mp same
  exact either.resolve_right fun isForeign => notForeign isForeign.1

/-- A name that is met in one order alone has two marks, and with one of them it is met in both. -/
theorem exists_of_one_order {name : String} (isForeign : Foreign name)
    (known : (thirdPass order files).knows name) (unknown : ¬ (thirdPass order others).knows name) :
    ∃ own, ¬ Foreign own ∧ name = externalMark ++ (externalMark ++ own) ∧
      (thirdPass order files).knows (externalMark ++ own) ∧
        (thirdPass order others).knows (externalMark ++ own) := by
  obtain ⟨marked, rfl, tame, either⟩ := knows_of_order perm domestic apart isForeign known
  obtain ⟨markedForeign, known'⟩ := either.resolve_left unknown
  obtain ⟨own, rfl, notForeign⟩ := tame.resolve_left fun notForeign => notForeign markedForeign
  refine ⟨own, notForeign, rfl, ?_, known'⟩
  refine knows_of_order_of_not_foreign perm.symm
    (fun file member => domestic file (perm.mem_iff.mpr member)) ?_ notForeign known'
  exact (perm.pairwise_iff ReadFile.Apart.symm).mp apart

end TwoOrders

end Extraction

/-- If no name of the files is foreign and they have no names in common, the same external code
stands in the model file in whatever order the passes visit the files, but for names with two marks:
where one of them stands in one file alone, the name with one of its marks stands in both. -/
theorem external_names_up_to_marks (typeOrder : Arrangement String) (files others : List ReadFile)
    (perm : files.Perm others) (domestic : ∀ file ∈ files, file.Domestic)
    (apart : files.Pairwise ReadFile.Apart) :
    let first := (Model.ofFiles typeOrder files).contents.externalNames
    let second := (Model.ofFiles typeOrder others).contents.externalNames
    ∀ name, (name ∈ first ↔ name ∈ second) ∨
      ∃ own, ¬ Foreign own ∧ name = externalMark ++ (externalMark ++ own) ∧
        externalMark ++ own ∈ first ∧ externalMark ++ own ∈ second := by
  intro first second name
  have domestic' : ∀ file ∈ others, file.Domestic :=
    fun file member => domestic file (perm.mem_iff.mpr member)
  have apart' := (perm.pairwise_iff ReadFile.Apart.symm).mp apart
  have mem_first {name : String} :=
    @Extraction.mem_externalNames_iff typeOrder files domestic name
  have mem_second {name : String} :=
    @Extraction.mem_externalNames_iff typeOrder others domestic' name
  rw [mem_first, mem_second]
  by_cases isForeign : Foreign name
  · by_cases known : (Extraction.thirdPass typeOrder files).knows name
    · by_cases known' : (Extraction.thirdPass typeOrder others).knows name
      · exact .inl (by simp [known, known'])
      · obtain ⟨own, notForeign, same, once, once'⟩ :=
          Extraction.exists_of_one_order perm domestic apart isForeign known known'
        have marked := foreign_externalMark own
        exact .inr ⟨own, notForeign, same, mem_first.mpr ⟨marked, once⟩,
          mem_second.mpr ⟨marked, once'⟩⟩
    · by_cases known' : (Extraction.thirdPass typeOrder others).knows name
      · obtain ⟨own, notForeign, same, once', once⟩ :=
          Extraction.exists_of_one_order perm.symm domestic' apart' isForeign known' known
        have marked := foreign_externalMark own
        exact .inr ⟨own, notForeign, same, mem_first.mpr ⟨marked, once⟩,
          mem_second.mpr ⟨marked, once'⟩⟩
      · exact .inl (by simp [known, known'])
  · exact .inl (by simp [isForeign])

/-- A function that calls external code and then a part of what it gives, and one that calls the
part by its own name. -/
def doubleMarkProject : Project where
  name := "p"
  folder := "/"
  files :=
    [{ path := "p/a.py"
       inner := ["a.py"]
       bytes := "def f():\n x = foo()\n x.bar()\n".toUTF8.toList },
     { path := "p/b.py"
       inner := ["b.py"]
       bytes := "def g():\n y = foo.bar()\n".toUTF8.toList }]

theorem doubleMarkProject_domestic : ∀ file ∈ doubleMarkProject.readFiles, file.Domestic := by
  decide +kernel

theorem doubleMarkProject_apart : doubleMarkProject.readFiles.Pairwise ReadFile.Apart := by
  decide +kernel

theorem doubleMarkProject_names :
    let files := doubleMarkProject.readFiles
    "extP2S.extP2S.foo.bar" ∈ (Model.ofFiles .ascending files).contents.externalNames ∧
      "extP2S.extP2S.foo.bar" ∉
        (Model.ofFiles .ascending files.reverse).contents.externalNames := by
  decide +kernel

/-- The part gets a second mark unless its own name is met before. -/
theorem doubleMark_order :
    let files := doubleMarkProject.readFiles
    let first := (Model.ofFiles .ascending files).contents.externalNames
    let second := (Model.ofFiles .ascending files.reverse).contents.externalNames
    ((∀ file ∈ files, file.Domestic) ∧ files.Pairwise ReadFile.Apart) ∧
      "extP2S.extP2S.foo.bar" ∈ first ∧ "extP2S.extP2S.foo.bar" ∉ second :=
  ⟨⟨doubleMarkProject_domestic, doubleMarkProject_apart⟩, doubleMarkProject_names⟩

/-- Without its second mark the name stands in both files. -/
theorem doubleMark_once :
    let files := doubleMarkProject.readFiles
    let first := (Model.ofFiles .ascending files).contents.externalNames
    let second := (Model.ofFiles .ascending files.reverse).contents.externalNames
    ((∀ file ∈ files, file.Domestic) ∧ files.Pairwise ReadFile.Apart) ∧
      ∃ own, ¬ Foreign own ∧ "extP2S.extP2S.foo.bar" = externalMark ++ (externalMark ++ own) ∧
        externalMark ++ own ∈ first ∧ externalMark ++ own ∈ second := by
  intro files first second
  have domestic : ∀ file ∈ files, file.Domestic := doubleMarkProject_domestic
  have apart : files.Pairwise ReadFile.Apart := doubleMarkProject_apart
  have differ : ¬ ("extP2S.extP2S.foo.bar" ∈ first ↔ "extP2S.extP2S.foo.bar" ∈ second) :=
    fun same => doubleMarkProject_names.2 (same.mp doubleMarkProject_names.1)
  refine ⟨⟨domestic, apart⟩, ?_⟩
  exact (external_names_up_to_marks .ascending files files.reverse files.reverse_perm.symm domestic
    apart "extP2S.extP2S.foo.bar").resolve_left differ

end CodeMap

import RecordBean.Command
import RecordBean.Proofs.Courses
import RecordBean.Proofs.FileTree
import RecordBean.Proofs.Rendering

/-! # Staying below the root

The class of a bean is named by an identifier, so its file adds one name to the directory of the
package. The package itself is text that no check looks at. As long as none of its parts begins with
a slash, the file lies below the root directory, whatever the root is, and a pass changes no file
anywhere else. A part that begins with a slash replaces the whole path in front of it, root
included. -/

namespace RecordBean.Containment
open RecordBean.Generation RecordBean.Interleaving RecordBean.Path

/-- Whether a location is the one of the root directory or lies below it. -/
def IsInside (t : FileTree) (root : String) (l : Location) : Prop := t.destination root <+: l

instance (t : FileTree) (root : String) (l : Location) : Decidable (IsInside t root l) :=
  inferInstanceAs (Decidable (_ <+: l))

/-! ## Names of beans -/

theorem notMem_companion {name : String} (h : Name.isIdentifier name = true) :
    '/' ∉ (Name.companion name).toList := by
  have hname : '/' ∉ name.toList := (Name.isWord_of_isIdentifier h).notMem (by decide)
  have hsuffix : '/' ∉ Name.beanSuffix.toList := by decide
  unfold Name.companion
  rw [String.toList_append, List.mem_append, not_or]
  exact ⟨hname, hsuffix⟩

/-- The name of a bean that is rendered holds no slash. -/
theorem notMem_beanName {s : Schema} {header text : String}
    (h : renderOwn s header = .ok text) : '/' ∉ s.beanName.toList :=
  notMem_companion (SourceFile.exists_renderOwn_iff.mp ⟨text, h⟩).1

/-! ## Files elsewhere -/

/-- Whether two trees have the same files outside of a root directory. -/
structure SameOutside (root : String) (before after : FileTree) : Prop where
  here : after.here = before.here
  file_iff : ∀ l, ¬ IsInside before root l → ∀ content,
    after.node? l = some (.file content) ↔ before.node? l = some (.file content)

theorem SameOutside.refl (root : String) (t : FileTree) : SameOutside root t t :=
  ⟨rfl, fun _ _ _ => Iff.rfl⟩

/-- The file of a class of a relative package is written inside. -/
theorem SameOutside.deliver {root : String} {before after : FileTree}
    (h : SameOutside root before after) {d : Delivery} (hn : '/' ∉ d.className.toList)
    (hp : IsRelative d.package) :
    SameOutside root before ((FileTree.sink root).deliver d after).2 := by
  have htree : ((FileTree.sink root).deliver d after).2 =
      (after.writeText (ofClass root d.package d.className) d.source).1 := by
    rw [FileTree.sink, FileTree.deliver_sinkBy]
    split <;> rename_i hw <;> rw [hw]
  rw [htree]
  refine ⟨(FileTree.writeText_here after _ _).trans h.here, fun l hl content => ?_⟩
  have hne : l ≠ after.destination (ofClass root d.package d.className) := by
    rintro rfl
    rw [FileTree.destination_ofClass after hn hp, FileTree.destination_of_here h.here] at hl
    exact hl (List.prefix_append _ _)
  exact (FileTree.writeText_file_iff hne).trans (h.file_iff l hl content)

/-- A pass over types of relative packages changes no file outside, whichever course it takes. -/
theorem sameOutside_of_course {catalog : Catalog} {settings : Settings} {root : String}
    (hp : ∀ h ∈ catalog.eligible, ∀ s, extract catalog settings h = .ok s →
      IsRelative s.packageName) {t : FileTree}
    (course : Course (FileTree.sink root) catalog settings (.start t)) :
    SameOutside root t course.after.state := by
  have hg : Governs (FileTree.sink root) catalog settings (SameOutside root t)
      fun _ _ => True := by
    intro h hh after hafter
    refine ⟨?_, trivial⟩
    cases hd : deliveryOf catalog settings h with
    | error e => exact hafter
    | ok d =>
      obtain ⟨s, hs, hr, hpackage, hclass⟩ := deliveryOf_eq_ok_iff.mp hd
      refine hafter.deliver ?_ ?_
      · rw [hclass]
        exact notMem_beanName hr
      · rw [hpackage]
        exact hp h hh s hs
  exact course.preserves hg (SameOutside.refl root t)

/-- The file of a bean lies below every root if no part of its package is absolute. Else its path
owes nothing to the root, and it lies below no relative one. If no marked type has such a package,
writing all beans leaves every file outside of the root as it is, in whatever order the types are
worked on. -/
theorem beans_stay_inside (catalog : Catalog) (settings : Settings) :
    (∀ h s text, extract catalog settings h = .ok s → renderOwn s settings.header = .ok text →
      (IsRelative s.packageName → ∀ root, IsBelow root (ofClass root s.packageName s.beanName)) ∧
      (¬ IsRelative s.packageName → ∀ root other,
        ofClass root s.packageName s.beanName = ofClass other s.packageName s.beanName) ∧
      ∀ root, isAbsolute root = false → components root ≠ [] →
        (IsBelow root (ofClass root s.packageName s.beanName) ↔ IsRelative s.packageName)) ∧
    ((∀ h ∈ catalog.eligible, ∀ s, extract catalog settings h = .ok s →
        IsRelative s.packageName) →
      ∀ t input, Command.loadCatalog t input = .ok catalog →
        ∀ l, ¬ IsInside t settings.outputDir l → ∀ content,
          ((Command.runGenerate t input settings).tree.node? l = some (.file content) ↔
            t.node? l = some (.file content)) ∧
          ∀ course : Course (FileTree.sink settings.outputDir) catalog settings (.start t),
            ((Command.generateResult input settings catalog course.pass).tree.node? l =
                some (.file content) ↔ t.node? l = some (.file content))) := by
  constructor
  · intro h s text _ hr
    have hn := notMem_beanName hr
    refine ⟨fun hp root => isBelow_ofClass hn hp root, fun hp root other => ?_,
      fun root ha hne => isBelow_ofClass_iff hn ha hne⟩
    exact ofClass_of_not_isRelative hp root other s.beanName
  · intro hp t input hc l hl content
    have hevery : ∀ course : Course (FileTree.sink settings.outputDir) catalog settings (.start t),
        ((Command.generateResult input settings catalog course.pass).tree.node? l =
          some (.file content) ↔ t.node? l = some (.file content)) :=
      fun course => (sameOutside_of_course hp course).file_iff l hl content
    have hrun : Command.runGenerate t input settings =
        Command.generateResult input settings catalog (Course.sequential
          (FileTree.sink settings.outputDir) catalog settings (.start t)).pass := by
      unfold Command.runGenerate
      rw [hc, Course.pass_sequential]
    rw [hrun]
    exact ⟨hevery _, hevery⟩

/-- A marked record with an absolute package. -/
def astray : Catalog where
  types := [⟨"B", .record, [], some "/etc", some .plain, []⟩]
  distinct := by decide

/-- The bean is written, and its file lies in another directory than the one for the beans. -/
theorem astray_leaves_root :
    (∃ h ∈ astray.eligible, ∃ s text, extract astray .default h = .ok s ∧
      renderOwn s Settings.default.header = .ok text ∧
      ofClass "out" s.packageName s.beanName = "/etc/BBean.java" ∧
      ¬ IsBelow "out" (ofClass "out" s.packageName s.beanName)) ∧
    (run (FileTree.sink "out") astray .default (.start (.empty []))).1.isSuccess = true ∧
    (run (FileTree.sink "out") astray .default (.start (.empty []))).2.state.node?
      ["etc", "BBean.java"] ≠ none ∧
    ¬ IsInside (.empty []) "out" ["etc", "BBean.java"] := by
  refine ⟨⟨_, List.mem_cons_self, _, _, rfl, rfl, by decide, by decide⟩, by decide +kernel,
    by decide +kernel, by decide⟩

end RecordBean.Containment

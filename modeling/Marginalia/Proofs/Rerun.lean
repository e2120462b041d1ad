import Marginalia.Proofs.FileTree.Storing
import Marginalia.Proofs.Generation
import Marginalia.Proofs.Source.Discovery

/-
  This file runs a generation again on the file tree that it
  has left. The first run may have made directories and may
  have put the document below a directory of sources, but as
  long as the document is not a source itself, the second run
  collects the same sources, reads the same modules, and
  stores the same document.

  Main results:
    * `Source.discover_eq_of_stored`
    * `Source.parse_eq_of_stored`
    * `Generation.compose_eq_of_stored`
    * `Generation.run_again`
-/

namespace Marginalia

------------------------------------------------------------
-- Sources after Storing
------------------------------------------------------------

namespace Source

open FileTree

variable
    {before after : FileTree}
    {place : Place}
    {content : List UInt8}

/-
  Below a place the same sources are listed as before, unless
  the stored file is one of them.
-/
theorem listed_eq_of_stored
    (hStored : Stored before after place content)
    {fileExtension : Text}
    {start : Place}
    (hApart :
      ∀ below ∈ listed after fileExtension start,
        start ++ below ≠ place) :
    listed after fileExtension start =
      listed before fileExtension start := by
  apply Place.eq_of_precedes
    (listed_pairwise after fileExtension start)
    (listed_pairwise before fileExtension start)
  intro below
  rw [mem_listed_iff, mem_listed_iff]
  apply and_congr_right
  intro hMatches
  -- The stored file is there now, so it would be listed.
  have hOther : start ++ below ≠ place := by
    intro hSame
    have hListed : below ∈ listed after fileExtension start := by
      rw [mem_listed_iff, hSame]
      exact ⟨hMatches, content, hStored.stored⟩
    exact hApart below hListed hSame
  simp only [hStored.file _ hOther]

/- The same sources are found below a directory. -/
theorem discover_eq_of_stored
    (hStored : Stored before after place content)
    (hAfter : after.Lawful)
    {fileExtension : Text}
    {directory : Path}
    (hUp : Path.up ∉ directory.segments)
    (hApart :
      ∀ source ∈ discover after fileExtension directory,
        after.follow source.path ≠ .ok place) :
    discover after fileExtension directory =
      discover before fileExtension directory := by
  have hOrigin : after.origin directory = before.origin directory := by
    unfold origin
    rw [hStored.home]
  rw [discover_eq after fileExtension hUp] at hApart ⊢
  rw [discover_eq before fileExtension hUp, ← hOrigin]
  apply congrArg (List.map _)
  apply listed_eq_of_stored hStored
  intro below hListed hSame
  apply hApart _ (List.mem_map_of_mem hListed)
  rw [follow_ofPlace hAfter hUp hListed, hSame]

/- The same sources are asked for. -/
theorem sought_eq_of_stored
    (hStored : Stored before after place content)
    (hAfter : after.Lawful)
    {settings : Settings}
    (hUp :
      ∀ directory ∈ settings.directories,
        Path.up ∉
          (settings.projectRoot.append
            (Path.ofText directory)).segments)
    (hApart :
      ∀ source ∈ sought after settings,
        after.follow source.path ≠ .ok place) :
    sought after settings = sought before settings := by
  unfold sought
  apply congrArg (· ++ _)
  apply List.flatMap_congr
  intro directory hDirectory
  apply discover_eq_of_stored hStored hAfter
    (hUp directory hDirectory)
  intro source hSource
  apply hApart
  exact List.mem_append_left _
    (List.mem_flatMap.mpr ⟨directory, hDirectory, hSource⟩)

/- The files that are named are still there. -/
theorem allFound_of_stored
    (hStored : Stored before after place content)
    {settings : Settings}
    (hFound : AllFound before settings) :
    AllFound after settings := by
  intro name hName
  exact hStored.isFile (hFound name hName)

/- A source that is not the stored file is parsed as before. -/
theorem parse_eq_of_stored
    (hStored : Stored before after place content)
    {source : Source}
    (hFile : before.isFile source.path = true)
    (hApart : after.follow source.path ≠ .ok place) :
    parse after source = parse before source := by
  have hRead := hStored.read_eq hFile hApart
  have hText : after.readText source.path =
      before.readText source.path := by
    unfold FileTree.readText
    rw [hRead]
  unfold parse readPath
  rw [hText]

end Source

------------------------------------------------------------
-- Running Again
------------------------------------------------------------

namespace Generation

open FileTree

variable {engine : Engine}
variable {tree : FileTree}
variable {settings : Settings}

/- The modules are the same as before. -/
theorem collects_of_stored
    {after : FileTree}
    {place : Place}
    {content : List UInt8}
    (hStored : Stored tree after place content)
    (hTree : tree.Lawful)
    {modules : List ModuleDoc}
    (hModules : Collects tree settings modules)
    (hSought :
      Source.sought after settings = Source.sought tree settings)
    (hApart :
      ∀ source ∈ Source.sought after settings,
        after.follow source.path ≠ .ok place) :
    Collects after settings modules where
  found := Source.allFound_of_stored hStored hModules.found
  parsed := by
    rw [hSought] at hApart ⊢
    rw [← hModules.parsed]
    apply List.map_congr_left
    intro source hSource
    exact Source.parse_eq_of_stored hStored
      (Source.isFile_of_mem_sought hTree hModules.found hSource)
      (hApart source hSource)

/-
  A run without a template of its own that has gone through
  and is made again goes through again with the same report.
  It collects the same sources in the same order and leaves
  the whole tree as it is. The directories of sources must not
  lead upwards, since such a path may come to lead elsewhere
  when directories are made, and the document must not be one
  of the sources that are now there.
-/
theorem run_again
    (hTree : tree.Lawful)
    (hSkip : settings.skip = false)
    (hTemplate : settings.templateDirectory = none)
    (hUp :
      ∀ directory ∈ settings.directories,
        Path.up ∉
          (settings.projectRoot.append
            (Path.ofText directory)).segments)
    {report : Report}
    (hOutcome : (run engine tree settings).outcome = .ok report)
    (hApart :
      ∀ sources,
        Source.collect (run engine tree settings).tree settings =
          .ok sources →
        ∀ source ∈ sources,
          (run engine tree settings).tree.follow source.path ≠
            (run engine tree settings).tree.follow
              settings.outputPath) :
    (run engine (run engine tree settings).tree settings).outcome =
        .ok report ∧
      (run engine (run engine tree settings).tree settings).tree =
        (run engine tree settings).tree ∧
      ∃ sources,
        Source.collect tree settings = .ok sources ∧
          Source.collect (run engine tree settings).tree settings =
            .ok sources := by
  rcases exists_store_of_outcome_eq_ok hSkip hOutcome with
    ⟨text, hCompose, hReport, hStore⟩
  rcases compose_eq_ok_iff.mp hCompose with
    ⟨hCheck, hModules, hText⟩
  generalize (run engine tree settings).tree = after at hStore hApart ⊢
  have hAfter := hTree.store hStore
  rcases exists_stored_of_store_eq_ok hTree.home hStore with
    ⟨place, hFollow, hStored⟩
  have hFound :=
    Source.allFound_of_stored hStored hModules.found
  have hPlaces :
      ∀ source ∈ Source.sought after settings,
        after.follow source.path ≠ .ok place := by
    rw [← hFollow]
    exact hApart _ (Source.collect_eq_ok_iff.mpr ⟨hFound, rfl⟩)
  have hSought :=
    Source.sought_eq_of_stored hStored hAfter hUp hPlaces
  have hAgain :
      compose engine after settings =
        .ok (report.modules, some text) := by
    apply compose_eq_ok_iff.mpr
    refine ⟨hCheck,
      collects_of_stored hStored hTree hModules hSought hPlaces, ?_⟩
    unfold rendered at hText ⊢
    rw [hTemplate] at hText ⊢
    exact hText
  rcases (Ends.stored hAgain
    (store_again hAfter hFollow hStored.stored)).eq_run hSkip with
    ⟨hSecond, hSame⟩
  refine ⟨?_, hSame, Source.sought tree settings, ?_, ?_⟩
  · rw [hSecond, ← hReport]
  · exact Source.collect_eq_ok_iff.mpr ⟨hModules.found, rfl⟩
  · exact Source.collect_eq_ok_iff.mpr ⟨hFound, hSought.symm⟩

/-
  The first run makes a directory of sources that was missing
  and puts the document there; the second run changes nothing.
-/
theorem run_again_below :
    let tree : FileTree :=
      { root :=
          .directory
            [("src".toList,
              .directory [("a.dwl".toList, .file [])])] }
    let after (content : List UInt8) : FileTree :=
      { root :=
          .directory
            [("src".toList,
              .directory
                [("a.dwl".toList, .file []),
                  ("docs".toList,
                    .directory [("out.md".toList, .file content)])])] }
    let settings : Settings :=
      { directories := ["src".toList, "src/docs".toList]
        outputFile := "src/docs/out.md".toList }
    tree.Lawful ∧
      ∃ report content,
        (run Engine.plain tree settings).outcome = .ok report ∧
          (run Engine.plain tree settings).tree = after content ∧
          (run Engine.plain (after content) settings).outcome =
            .ok report ∧
          (run Engine.plain (after content) settings).tree =
            after content := by
  intro tree after settings
  have hLawful : tree.Lawful := by
    have hStore :
        FileTree.store {} (Path.ofText "src/a.dwl".toList) [] =
          (.ok (), tree) := rfl
    exact Lawful.empty.store hStore
  have hUp :
      ∀ directory ∈ settings.directories,
        Path.up ∉
          (settings.projectRoot.append
            (Path.ofText directory)).segments := by
    decide
  -- The bytes of the document stay unknown, so that nothing has
  -- to be rendered.
  have hStore (content : List UInt8) :
      tree.store settings.outputPath content =
        (.ok (), after content) := rfl
  have hCompose :
      ∃ modules text,
        compose Engine.plain tree settings =
          .ok (modules, some text) := ⟨_, _, rfl⟩
  rcases hCompose with ⟨modules, text, hCompose⟩
  rcases (Ends.stored hCompose (hStore _)).eq_run rfl with
    ⟨hReport, hTree⟩
  have hApart :
      ∀ sources,
        Source.collect (run Engine.plain tree settings).tree settings =
          .ok sources →
        ∀ source ∈ sources,
          (run Engine.plain tree settings).tree.follow source.path ≠
            (run Engine.plain tree settings).tree.follow
              settings.outputPath := by
    rw [hTree]
    generalize Utf8.encode text = content
    intro sources hSources source hSource
    have hCollect :
        Source.collect (after content) settings =
          .ok
            [{ root := Path.ofText "src".toList
               path := Path.ofText "src/a.dwl".toList
               fileExtension := "dwl".toList }] := rfl
    have hFollow :
        (after content).follow (Path.ofText "src/a.dwl".toList) =
          .ok ["src".toList, "a.dwl".toList] := rfl
    have hOutput :
        (after content).follow settings.outputPath =
          .ok
            ["src".toList, "docs".toList, "out.md".toList] := rfl
    cases hCollect.symm.trans hSources
    rw [List.mem_singleton.mp hSource, hFollow, hOutput]
    intro hSame
    cases hSame
  rcases run_again hLawful rfl rfl hUp hReport hApart with
    ⟨hSecond, hAgain, -⟩
  rw [hTree] at hSecond hAgain
  exact ⟨hLawful, _, _, hReport, hTree, hSecond, hAgain⟩

end Generation

end Marginalia

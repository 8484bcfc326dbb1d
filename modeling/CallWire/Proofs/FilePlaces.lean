import CallWire.Socket.Files
import Mathlib.Data.List.Infix
import Mathlib.Data.String.Basic

/-! Places of files. A path goes on leading where it leads as long as no directory is gone, so one file that is removed or
made takes no other away. -/

namespace CallWire
namespace FileTree

section
open String

/-- The loop of `String.splitOn`, which holds the number of bytes up to the end of the names it has found and the number of
bytes that it has looked at. -/
theorem splitOnAux_slash (read found rest : List Char) (before : List String) :
    splitOnAux (ofList (read ++ found ++ rest)) "/" ⟨utf8Len read⟩ ⟨utf8Len (read ++ found)⟩ 0 before =
      before.reverse ++ (List.splitOnPPrepend (· == '/') rest found.reverse).map ofList := by
  have separator : Pos.Raw.get "/" 0 = '/' := by decide
  have past : Pos.Raw.next "/" 0 = ⟨1⟩ := by decide
  have whole : Pos.Raw.atEnd "/" ⟨1⟩ = true := by decide
  have width : '/'.utf8Size = 1 := by decide
  induction rest generalizing read found before with
  | nil =>
    have name := extract_of_valid read found []
    rw [splitOnAux, if_pos ((atEnd_of_valid _ _).mpr rfl)]
    simp only [utf8Len_append, name, List.reverse_cons, List.splitOnPPrepend_nil, List.reverse_reverse, List.map_cons,
      List.map_nil]
  | cons c rest ih =>
    have goesOn : ¬ Pos.Raw.atEnd (ofList (read ++ found ++ c :: rest)) ⟨utf8Len (read ++ found)⟩ = true :=
      fun done => List.cons_ne_nil c rest ((atEnd_of_valid _ _).mp done)
    have here := get_of_valid (read ++ found) (c :: rest)
    have onwards := next_of_valid (read ++ found) c rest
    have name := extract_of_valid read found (c :: rest)
    rw [← utf8Len_append] at name
    rw [splitOnAux, if_neg goesOn, here, separator, onwards]
    by_cases slash : c = '/'
    · subst slash
      have later := ih (read ++ found ++ ['/']) [] (ofList found :: before)
      simp only [past, whole, if_true, List.headD_cons, BEq.rfl, width, Pos.Raw.unoffsetBy, Nat.add_sub_cancel, name]
      simpa [utf8Len_append, width, List.splitOnPPrepend_cons_pos, Nat.add_assoc] using later
    · have later := ih read (found ++ [c]) before
      have inside : (c == '/') = false := by simpa using slash
      have still : (⟨utf8Len (read ++ found)⟩ : Pos.Raw).unoffsetBy 0 = ⟨utf8Len (read ++ found)⟩ := rfl
      simp only [List.headD_cons, inside, Bool.false_eq_true, if_false, still, onwards]
      simpa [utf8Len_append, List.splitOnPPrepend_cons_neg, Nat.add_assoc, inside] using later

/-- The names of a path stand between its slashes. -/
theorem names_eq (path : String) :
    names path = ((List.splitOnP (· == '/') path.toList).map ofList).filter fun name => name ≠ "" := by
  have split := splitOnAux_slash [] [] path.toList []
  simp only [List.append_nil, List.nil_append, ofList_toList, List.reverse_nil] at split
  rw [names, splitOn, if_neg (by decide)]
  exact congrArg _ split

end

/-- No two files are at one place. -/
def Distinct (tree : FileTree) : Prop := ∀ entry ∈ tree, ∀ other ∈ tree, other.place = entry.place → other = entry

/-- All that leads to a place is directories. -/
def Nests (tree : FileTree) (place : List String) : Prop :=
  ∀ above, above <+: place → above ≠ place → tree.kindAt? above = some .directory

/-- How a file system keeps its files. -/
structure IsSound (tree : FileTree) : Prop where
  distinct : tree.Distinct
  inside : ∀ entry ∈ tree, entry.place ≠ [] ∧ entry.place ≠ rootPlace
  nested : ∀ entry ∈ tree, tree.Nests entry.place

/-- Every directory that there was is still there. -/
def KeepsDirectories (tree later : FileTree) : Prop :=
  ∀ place, tree.kindAt? place = some .directory → later.kindAt? place = some .directory

variable {tree later : FileTree} {place : List String} {path : String} {entry : FileEntry}

theorem mem_of_find? (found : tree.find? place = some entry) : entry ∈ tree ∧ entry.place = place :=
  ⟨List.mem_of_find?_eq_some found, by simpa using List.find?_some found⟩

theorem Distinct.find?_eq_some (distinct : tree.Distinct) :
    tree.find? place = some entry ↔ entry ∈ tree ∧ entry.place = place := by
  refine ⟨mem_of_find?, ?_⟩
  rintro ⟨member, rfl⟩
  cases found : tree.find? entry.place with
  | none => simpa using List.find?_eq_none.mp found entry member
  | some other =>
    obtain ⟨present, same⟩ := mem_of_find? found
    rw [distinct entry member other present same]

theorem kindAt?_of_find? (found : tree.find? place = some entry) (nonempty : place ≠ []) (other : place ≠ rootPlace) :
    tree.kindAt? place = some entry.kind := by
  rw [kindAt?, if_neg (not_or.mpr ⟨nonempty, other⟩), found]
  rfl

theorem kindAt?_eq_none (vacant : tree.kindAt? place = none) :
    place ≠ [] ∧ place ≠ rootPlace ∧ tree.find? place = none := by
  unfold kindAt? at vacant
  split at vacant
  · cases vacant
  · rename_i apart
    exact ⟨fun same => apart (.inl same), fun same => apart (.inr same), Option.map_eq_none_iff.mp vacant⟩

theorem IsSound.kindAt? (sound : tree.IsSound) (member : entry ∈ tree) : tree.kindAt? entry.place = some entry.kind := by
  obtain ⟨nonempty, other⟩ := sound.inside entry member
  exact kindAt?_of_find? (sound.distinct.find?_eq_some.mpr ⟨member, rfl⟩) nonempty other

/-- A directory is kept if its entry is, where it has one. -/
theorem directory_kept (directory : tree.kindAt? place = some .directory)
    (kept : ∀ entry, tree.find? place = some entry → entry.kind = .directory → later.find? place = some entry) :
    later.kindAt? place = some .directory := by
  unfold FileTree.kindAt? at directory ⊢
  split
  · rfl
  · rename_i apart
    rw [if_neg apart, Option.map_eq_some_iff] at directory
    obtain ⟨entry, found, kind⟩ := directory
    rw [kept entry found kind, Option.map_some, kind]

/-- On the names that are still to come. -/
theorem walk_keeps (keeps : tree.KeepsDirectories later) {names : List String} {start : List String}
    (leads : tree.walk start names = .ok place) : later.walk start names = .ok place := by
  induction names generalizing start with
  | nil => exact leads
  | cons name rest ih =>
    unfold walk at leads ⊢
    split at leads
    · cases leads
    · rename_i directory
      rw [keeps start directory]
      exact ih leads
    · cases leads

/-- On the way from a directory to where a name leads there are directories only. -/
theorem enter_nests {start : List String} (nests : tree.Nests start) (directory : tree.kindAt? start = some .directory)
    (name : String) : tree.Nests (enter start name) := by
  unfold enter
  split
  · exact nests
  split
  · intro above front apart
    by_cases same : above = start
    · rw [same, directory]
    · rcases List.prefix_concat_iff.mp front with whole | front
      · exact absurd whole apart
      · exact nests above front same
  split
  · exact nests
  · intro above front apart
    refine nests above (front.trans (List.dropLast_prefix start)) ?_
    rintro rfl
    have length := front.length_le
    rw [List.length_dropLast] at length
    cases above with
    | nil => exact apart rfl
    | cons first more => exact absurd length (Nat.not_succ_le_self _)

theorem walk_nests {names : List String} {start : List String} (nests : tree.Nests start)
    (leads : tree.walk start names = .ok place) : tree.Nests place := by
  induction names generalizing start with
  | nil =>
    cases leads
    exact nests
  | cons name rest ih =>
    unfold walk at leads
    split at leads
    · cases leads
    · rename_i directory
      exact ih (enter_nests nests directory name) leads
    · cases leads

theorem locate_keeps (keeps : tree.KeepsDirectories later) (leads : tree.locate path = .ok place) :
    later.locate path = .ok place := by
  unfold locate at leads ⊢
  split at leads
  · cases leads
  · rename_i nonempty
    rw [if_neg nonempty]
    exact walk_keeps keeps leads

theorem locate_nests (leads : tree.locate path = .ok place) : tree.Nests place := by
  unfold locate at leads
  split at leads
  · cases leads
  · refine walk_nests (fun above front apart => ?_) leads
    split at front
    · rename_i absolute
      rw [if_pos absolute] at apart
      rcases List.prefix_concat_iff.mp (show above <+: [] ++ ["/"] from front) with whole | front
      · exact absurd whole apart
      · rw [List.prefix_nil.mp front]
        rfl
    · rename_i relative
      rw [if_neg relative] at apart
      exact absurd (List.prefix_nil.mp front) apart

/-- What a path finds is a socket just if it leads to the place of one. -/
theorem IsSound.lookup_eq_socket (sound : tree.IsSound) (socket : entry.kind = .socket) :
    tree.lookup path = .ok entry ↔
      tree.locate path = .ok entry.place ∧ entry ∈ tree ∧ namesDirectory path = false := by
  constructor
  · intro found
    unfold lookup at found
    split at found
    · cases found
    · rename_i place leads
      split at found
      · cases found
      · rename_i directory present
        cases found
        obtain ⟨member, rfl⟩ := mem_of_find? present
        rw [sound.kindAt? member, socket] at directory
        cases directory
      · rename_i kind inPlace absent
        cases found
        unfold FileTree.kindAt? at inPlace
        split at inPlace
        · cases inPlace.trans (congrArg some socket)
        · rw [absent] at inPlace
          cases inPlace
      · rename_i present
        split at found
        · cases found
        · rename_i file
          cases found
          obtain ⟨member, rfl⟩ := mem_of_find? present
          exact ⟨leads, member, by simpa using file⟩
  · rintro ⟨leads, member, file⟩
    have kind := sound.kindAt? member
    have present := sound.distinct.find?_eq_some.mpr ⟨member, rfl⟩
    rw [socket] at kind
    simp only [lookup, leads, kind, present, file, Bool.false_eq_true, if_false]

/-- Whatever else becomes of the files, a path goes on finding a socket that stays at its place. -/
theorem IsSound.lookup_keeps (sound : tree.IsSound) (sound' : later.IsSound) (keeps : tree.KeepsDirectories later)
    (socket : entry.kind = .socket) (found : tree.lookup path = .ok entry) (still : entry ∈ later) :
    later.lookup path = .ok entry := by
  rw [sound.lookup_eq_socket socket] at found
  rw [sound'.lookup_eq_socket socket]
  exact ⟨locate_keeps keeps found.1, still, found.2.2⟩

theorem mem_remove {other : FileEntry} : other ∈ tree.remove place ↔ other ∈ tree ∧ ¬ place <+: other.place := by
  simp [remove, List.mem_filter, ← List.isPrefixOf_iff_prefix]

theorem Distinct.remove (distinct : tree.Distinct) (place : List String) : (tree.remove place).Distinct := by
  intro first present second present'
  exact distinct first (mem_remove.mp present).1 second (mem_remove.mp present').1

/-- Whatever is removed goes with all that is below it. -/
theorem IsSound.remove (sound : tree.IsSound) (place : List String) : (tree.remove place).IsSound := by
  refine ⟨sound.distinct.remove place, fun other present => ?_, fun other present above front apart => ?_⟩
  · exact sound.inside other (mem_remove.mp present).1
  · obtain ⟨present, beside⟩ := mem_remove.mp present
    refine directory_kept (sound.nested other present above front apart) fun entry found _ => ?_
    obtain ⟨member, rfl⟩ := mem_of_find? found
    rw [(sound.distinct.remove place).find?_eq_some, mem_remove]
    exact ⟨⟨member, fun below => beside (below.trans front)⟩, rfl⟩

section Removal
variable (sound : tree.IsSound) (member : entry ∈ tree) (file : entry.kind ≠ .directory)
include sound member file

/-- Nothing is below a file, so nothing goes with it. -/
theorem IsSound.mem_remove_file {other : FileEntry} :
    other ∈ tree.remove entry.place ↔ other ∈ tree ∧ other ≠ entry := by
  rw [mem_remove]
  refine and_congr_right fun present => not_congr ⟨fun below => ?_, ?_⟩
  · by_cases same : entry.place = other.place
    · exact sound.distinct entry member other present same.symm
    · have directory := sound.nested other present entry.place below same
      rw [sound.kindAt? member] at directory
      exact absurd (Option.some.inj directory) file
  · rintro rfl
    exact List.prefix_rfl

theorem IsSound.remove_keepsDirectories : tree.KeepsDirectories (tree.remove entry.place) := by
  intro place directory
  refine directory_kept directory fun other found kind => ?_
  obtain ⟨present, rfl⟩ := mem_of_find? found
  rw [(sound.distinct.remove entry.place).find?_eq_some, sound.mem_remove_file member file]
  refine ⟨⟨present, ?_⟩, rfl⟩
  rintro rfl
  exact file kind

theorem IsSound.remove_vacant : (tree.remove entry.place).kindAt? entry.place = none := by
  obtain ⟨nonempty, other⟩ := sound.inside entry member
  rw [FileTree.kindAt?, if_neg (not_or.mpr ⟨nonempty, other⟩)]
  cases found : (tree.remove entry.place).find? entry.place with
  | none => rfl
  | some second =>
    obtain ⟨present, same⟩ := mem_of_find? found
    obtain ⟨present, apart⟩ := (sound.mem_remove_file member file).mp present
    exact absurd (sound.distinct entry member second present same) apart

end Removal

theorem keepsDirectories_append (tree : FileTree) (entry : FileEntry) : tree.KeepsDirectories (tree ++ [entry]) := by
  intro place directory
  refine directory_kept directory fun other found _ => ?_
  rw [find?, List.find?_append, show List.find? _ tree = _ from found]
  rfl

/-- A file may be made at a place where there is none, below directories. -/
theorem IsSound.append (sound : tree.IsSound) (vacant : tree.kindAt? entry.place = none)
    (nests : tree.Nests entry.place) : IsSound (tree ++ [entry]) := by
  obtain ⟨nonempty, apart, absent⟩ := kindAt?_eq_none vacant
  have keeps := keepsDirectories_append tree entry
  have alone : ∀ other ∈ tree, other.place ≠ entry.place := by
    intro other present same
    rw [sound.distinct.find?_eq_some.mpr ⟨present, same⟩] at absent
    cases absent
  refine ⟨?_, ?_, ?_⟩
  · intro first present second present' same
    rcases List.mem_append.mp present with present | present
    · rcases List.mem_append.mp present' with present' | present'
      · exact sound.distinct first present second present' same
      · cases List.mem_singleton.mp present'
        exact absurd same.symm (alone first present)
    · cases List.mem_singleton.mp present
      rcases List.mem_append.mp present' with present' | present'
      · exact absurd same (alone second present')
      · exact List.mem_singleton.mp present'
  · intro other present
    rcases List.mem_append.mp present with present | present
    · exact sound.inside other present
    · cases List.mem_singleton.mp present
      exact ⟨nonempty, apart⟩
  · intro other present above front differs
    rcases List.mem_append.mp present with present | present
    · exact keeps above (sound.nested other present above front differs)
    · cases List.mem_singleton.mp present
      exact keeps above (nests above front differs)

theorem vacancy_eq_ok : tree.vacancy path = .ok place ↔ tree.locate path = .ok place ∧ tree.kindAt? place = none := by
  unfold vacancy
  split
  · rename_i failed
    simp [failed]
  · rename_i other leads
    split
    · rename_i taken
      simp only [reduceCtorEq, false_iff, leads, Except.ok.injEq, not_and]
      rintro rfl vacant
      rw [vacant] at taken
      cases taken
    · rename_i vacant
      simp only [Except.ok.injEq, leads]
      constructor
      · rintro rfl
        exact ⟨rfl, by simpa using vacant⟩
      · exact And.left

/-- Some files are gone, others were made, and everything else is as it was. -/
structure Swaps (tree : FileTree) (gone made : List FileEntry) (later : FileTree) : Prop where
  sound : later.IsSound
  keeps : tree.KeepsDirectories later
  mem_iff : ∀ entry, entry ∈ later ↔ entry ∈ tree ∧ entry ∉ gone ∨ entry ∈ made

theorem IsSound.swaps_nothing (sound : tree.IsSound) : tree.Swaps [] [] tree :=
  ⟨sound, fun _ directory => directory, by simp⟩

theorem IsSound.swaps_remove (sound : tree.IsSound) (member : entry ∈ tree) (file : entry.kind ≠ .directory) :
    tree.Swaps [entry] [] (tree.remove entry.place) := by
  refine ⟨sound.remove entry.place, sound.remove_keepsDirectories member file, fun other => ?_⟩
  rw [sound.mem_remove_file member file]
  simp

/-- A socket that a path finds may be removed by itself. -/
theorem IsSound.swaps_socket (sound : tree.IsSound) (socket : entry.kind = .socket)
    (found : tree.lookup path = .ok entry) : tree.Swaps [entry] [] (tree.remove entry.place) := by
  refine sound.swaps_remove ((sound.lookup_eq_socket socket).mp found).2.1 ?_
  rw [socket]
  exact nofun

/-- A file is made where there is none, after some are gone. -/
theorem Swaps.append {gone : List FileEntry} {place : List String} (swaps : tree.Swaps gone [] later)
    (vacant : later.vacancy path = .ok place) (own : entry.place = place) :
    tree.Swaps gone [entry] (later ++ [entry]) := by
  subst own
  obtain ⟨leads, nothing⟩ := vacancy_eq_ok.mp vacant
  refine ⟨swaps.sound.append nothing (locate_nests leads), fun place directory => ?_, fun other => ?_⟩
  · exact keepsDirectories_append later entry place (swaps.keeps place directory)
  · rw [List.mem_append, swaps.mem_iff]
    simp

end FileTree
end CallWire

import Mathlib
import RuleServer.Host.Files
import RuleServer.Proofs.Decode.Record

/-!
The places that paths lead to. An absolute path leads to one place from every directory. Without
links, a relative path that does not climb leads from every directory to another place. Files that
are made do not change where a path leads.
-/

namespace RuleServer

namespace Path

theorem slash_mem_of_isAbsolute {p : Path} (h : p.isAbsolute) : slash ∈ p.bytes := by
  rw [isAbsolute, beq_iff_eq] at h
  exact List.mem_of_head? h

theorem isAbsolute_join (dir p : Path) :
    (dir.join p).isAbsolute = (p.isAbsolute || dir.isAbsolute) := by
  by_cases hp : p.isAbsolute
  · simp [join, hp]
  · obtain ⟨bytes⟩ := dir
    rw [join, if_neg hp, Bool.eq_false_of_not_eq_true hp, Bool.false_or]
    cases bytes with
    -- no directory at all: the path stays as it is
    | nil => simpa [isAbsolute] using hp
    | cons b bytes =>
      by_cases hlast : (b :: bytes).getLast? = some slash <;> simp [hlast, isAbsolute]

/-- The path goes through a parent directory. -/
def Climbs (p : Path) : Prop :=
  dotDot ∈ p.pieces

/-- The names of a path that lead into a directory or to a file. -/
def descent (p : Path) : List Bytes :=
  p.pieces.filter fun name => name ≠ [] ∧ name ≠ dot

end Path

namespace Files

/-- Where a path starts. -/
def origin (fs : Files) (p : Path) : Place :=
  if p.isAbsolute then [] else fs.current

theorem place_eq_ok_iff {fs : Files} {p : Path} {place : Place} :
    fs.place p = .ok place ↔
      0 ∉ p.bytes ∧ p.bytes ≠ [] ∧ p.bytes.length < pathLimit ∧
        fs.walk linkLimit (fs.origin p) p.pieces = .ok place := by
  unfold Files.place
  by_cases hnul : 0 ∈ p.bytes
  · simp [hnul]
  · by_cases hempty : p.bytes = []
    · simp [hempty]
    · by_cases hlong : pathLimit ≤ p.bytes.length
      · simp [hnul, hempty, hlong]
      · rw [if_neg hnul, if_neg hempty, if_neg hlong]
        simp only [hnul, hempty, Nat.lt_of_not_le hlong, not_false_iff, ne_eq, true_and]
        rfl

theorem step_eq_ok_iff {fs : Files} {place next : Place} {name : Bytes} :
    fs.step place name = .ok next ↔
      fs.entry? place = some .directory ∧
        if name = [] ∨ name = Path.dot then next = place
        else if name = Path.dotDot then next = place.dropLast
        else name.length ≤ nameLimit ∧ fs.isTaken (place ++ [name]) ∧ next = place ++ [name] := by
  unfold step
  cases hentry : fs.entry? place with
  | none => simp
  | some e =>
    cases e with
    | file content executable => simp
    | directory =>
      by_cases hstay : name = [] ∨ name = Path.dot
      · simp [hstay, eq_comm]
      · by_cases hleave : name = Path.dotDot
        · rw [if_neg hstay, if_neg hstay, if_pos hleave, if_pos hleave]
          simp [eq_comm]
        · rw [if_neg hstay, if_neg hstay, if_neg hleave, if_neg hleave]
          by_cases hlong : nameLimit < name.length
          · simp [hlong, Nat.not_le.mpr hlong]
          · by_cases htaken : fs.isTaken (place ++ [name])
            · simp [hlong, htaken, Nat.le_of_not_lt hlong, eq_comm]
            · simp [hlong, htaken]

/-- A walk ends where it comes without links, or goes on from the directory of the first one. -/
theorem walk_eq_ok_iff {fs : Files} {links : Nat} {place last : Place} {names : List Bytes} :
    fs.walk links place names = .ok last ↔
      fs.advance place names = .ok (.arrived last) ∨
        ∃ left directory target rest, links = left + 1 ∧
          fs.advance place names = .ok (.linked directory target rest) ∧
          fs.walk left (if target.isAbsolute then [] else directory) (target.pieces ++ rest) =
            .ok last := by
  cases links with
  | zero =>
    unfold walk
    split <;> rename_i hadvance <;> simp [hadvance]
  | succ left =>
    rw [walk]
    split <;> rename_i hadvance <;> simp [hadvance]

theorem link?_of_no_links {fs : Files} (h : fs.links = []) (place : Place) :
    fs.link? place = none := by
  simp [link?, h]

/-- A walk without links and without `..` goes down by the names that it is given. -/
theorem advance_eq_append {fs : Files} (hlinks : fs.links = []) {names : List Bytes} {place : Place}
    {halt : Halt} (h : fs.advance place names = .ok halt) (hclimb : Path.dotDot ∉ names) :
    halt = .arrived (place ++ names.filter fun name => name ≠ [] ∧ name ≠ Path.dot) := by
  induction names generalizing place with
  | nil => simpa [advance, eq_comm] using h
  | cons name names ih =>
    rw [List.mem_cons, not_or] at hclimb
    rw [advance] at h
    cases hstep : fs.step place name with
    | error fault => simp [hstep] at h
    | ok next =>
      simp only [hstep, link?_of_no_links hlinks] at h
      have hnext := (step_eq_ok_iff.mp hstep).2
      rw [ih h hclimb.2]
      by_cases hstay : name = [] ∨ name = Path.dot
      · rw [if_pos hstay] at hnext
        have hskip : ¬ (name ≠ [] ∧ name ≠ Path.dot) := by tauto
        rw [hnext, List.filter_cons_of_neg (by simpa using hskip)]
      · have hleave : name ≠ Path.dotDot := fun he => hclimb.1 he.symm
        rw [if_neg hstay, if_neg hleave] at hnext
        have hkeep : name ≠ [] ∧ name ≠ Path.dot := by tauto
        rw [hnext.2.2, List.filter_cons_of_pos (by simpa using hkeep), List.append_assoc,
          List.singleton_append]

theorem place_eq_append {fs : Files} (hlinks : fs.links = []) {p : Path} {place : Place}
    (h : fs.place p = .ok place) (hclimb : ¬ p.Climbs) : place = fs.origin p ++ p.descent := by
  rcases walk_eq_ok_iff.mp (place_eq_ok_iff.mp h).2.2.2 with hend | ⟨_, _, _, _, _, hend, _⟩
  · exact Halt.arrived.inj (advance_eq_append hlinks hend hclimb)
  · cases advance_eq_append hlinks hend hclimb

/-- Every entry is also one of the other files, and the links are the same. -/
structure Extends (fs fs' : Files) : Prop where
  entries : ∀ place e, fs.entry? place = some e → fs'.entry? place = some e
  links : ∀ place, fs'.link? place = fs.link? place

namespace Extends

variable {fs fs' fs'' : Files}

theorem trans (h : fs.Extends fs') (h' : fs'.Extends fs'') : fs.Extends fs'' where
  entries place e hentry := h'.entries place e (h.entries place e hentry)
  links place := (h'.links place).trans (h.links place)

theorem isTaken (h : fs.Extends fs') {place : Place} (htaken : fs.isTaken place) :
    fs'.isTaken place := by
  rw [Files.isTaken, Bool.or_eq_true] at htaken ⊢
  refine htaken.imp (fun hentry => ?_) (fun hlink => by rwa [h.links])
  obtain ⟨e, he⟩ := Option.isSome_iff_exists.mp hentry
  simp [h.entries _ _ he]

theorem step (h : fs.Extends fs') {place next : Place} {name : Bytes}
    (hstep : fs.step place name = .ok next) : fs'.step place name = .ok next := by
  rw [step_eq_ok_iff] at hstep ⊢
  refine ⟨h.entries _ _ hstep.1, ?_⟩
  have hnext := hstep.2
  split_ifs at hnext ⊢
  · exact hnext
  · exact hnext
  · exact ⟨hnext.1, h.isTaken hnext.2.1, hnext.2.2⟩

theorem advance (h : fs.Extends fs') {names : List Bytes} {place : Place} {halt : Halt}
    (hadvance : fs.advance place names = .ok halt) : fs'.advance place names = .ok halt := by
  induction names generalizing place with
  | nil => exact hadvance
  | cons name names ih =>
    rw [Files.advance] at hadvance ⊢
    cases hstep : fs.step place name with
    | error fault => simp [hstep] at hadvance
    | ok next =>
      simp only [hstep] at hadvance
      simp only [h.step hstep, h.links]
      cases hlink : fs.link? next with
      | none =>
        rw [hlink] at hadvance
        exact ih hadvance
      | some link =>
        rw [hlink] at hadvance
        cases link with
        | hard other => exact ih hadvance
        | symbolic target => exact hadvance

theorem walk (h : fs.Extends fs') {links : Nat} {names : List Bytes} {place last : Place}
    (hwalk : fs.walk links place names = .ok last) : fs'.walk links place names = .ok last := by
  induction links generalizing place names with
  | zero =>
    rw [walk_eq_ok_iff] at hwalk ⊢
    rcases hwalk with hend | ⟨_, _, _, _, hlinks, _⟩
    · exact .inl (h.advance hend)
    · omega
  | succ links ih =>
    rw [walk_eq_ok_iff] at hwalk ⊢
    rcases hwalk with hend | ⟨left, directory, target, rest, hlinks, hend, hrest⟩
    · exact .inl (h.advance hend)
    · obtain rfl : links = left := Nat.succ.inj hlinks
      exact .inr ⟨links, directory, target, rest, rfl, h.advance hend, ih hrest⟩

/-- A path that starts at the same place leads to the same place among more files. -/
theorem place (h : fs.Extends fs') {p : Path} {place : Place}
    (horigin : fs'.origin p = fs.origin p) (hplace : fs.place p = .ok place) :
    fs'.place p = .ok place := by
  rw [place_eq_ok_iff] at hplace ⊢
  obtain ⟨hnul, hempty, hlong, hwalk⟩ := hplace
  exact ⟨hnul, hempty, hlong, horigin ▸ h.walk hwalk⟩

end Extends

theorem entry?_append {fs : Files} {place : Place} (h : fs.isTaken place = false) (e : Entry)
    (other : Place) :
    Files.entry? { fs with entries := fs.entries ++ [(place, e)] } other =
      if other = place then some e else fs.entry? other := by
  have hnone : fs.entry? place = none := by
    rw [isTaken, Bool.or_eq_false_iff] at h
    simpa using h.1
  by_cases hroot : other = []
  · have hne : other ≠ place := by
      rintro rfl
      simp [ entry?, hroot] at hnone
    simp [ entry?, hroot, hroot ▸ hne]
  · by_cases hsame : other = place
    · subst hsame
      rw [ entry?, if_neg hroot] at hnone
      simp [ entry?, hroot, List.lookup_append, hnone]
    · have hother : (other == place) = false := beq_eq_false_iff_ne.mpr hsame
      simp [ entry?, hroot, List.lookup_append, List.lookup_cons, hother, hsame]

/-- What is made stands where nothing was, and all the rest is as before. -/
theorem extends_make {fs fs' : Files} {directory : Path} {name : String} {e : Entry}
    (h : fs.make directory name e = .ok fs') :
    fs.Extends fs' ∧ fs'.current = fs.current ∧ fs'.links = fs.links := by
  unfold make at h
  split at h
  · cases h
  · split at h
    · cases h
    · rename_i within _
      dsimp only at h
      split_ifs at h with htaken
      have hfree : fs.isTaken (within ++ [utf8Bytes name]) = false := by simpa using htaken
      obtain rfl := Except.ok.inj h
      refine ⟨⟨fun place e' hentry => ?_, fun place => ?_⟩, rfl, rfl⟩
      · rw [entry?_append hfree, if_neg]
        · exact hentry
        · rintro rfl
          simp [isTaken, hentry] at hfree
      · rw [link?, entry?_append hfree, link?]
        by_cases hsame : place = within ++ [utf8Bytes name]
        · subst hsame
          rw [isTaken, Bool.or_eq_false_iff] at hfree
          have hlink : fs.link? (within ++ [utf8Bytes name]) = none := by simpa using hfree.2
          rw [if_pos rfl, ← link?, hlink]
          rfl
        · rw [if_neg hsame]
  · cases h

theorem lookup_eq_ok_iff {fs : Files} {p : Path} {e : Entry} :
    fs.lookup p = .ok e ↔ ∃ place, fs.place p = .ok place ∧ fs.entry? place = some e := by
  unfold Files.lookup
  rw [bind_eq_ok_iff]
  constructor
  · rintro ⟨place, hplace, h⟩
    refine ⟨place, hplace, ?_⟩
    cases hentry : fs.entry? place with
    | none => simp [hentry, throw, throwThe, MonadExceptOf.throw] at h
    | some found => simpa [hentry, pure, Except.pure] using h
  · rintro ⟨place, hplace, hentry⟩
    exact ⟨place, hplace, by simp [hentry, pure, Except.pure]⟩

theorem lookup_of_isFile {fs : Files} {p : Path} (h : fs.isFile p) :
    ∃ content executable, fs.lookup p = .ok (.file content executable) := by
  unfold isFile at h
  split at h
  · rename_i content executable hlookup
    exact ⟨content, executable, hlookup⟩
  · simp at h

theorem lookup_of_isDirectory {fs : Files} {p : Path} (h : fs.isDirectory p) :
    fs.lookup p = .ok .directory := by
  unfold isDirectory at h
  split at h
  · assumption
  · simp at h

end Files

end RuleServer

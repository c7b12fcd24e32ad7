import ExMode.Proofs.Directory
import ExMode.Proofs.ReadWord

/-!
# ExMode.Proofs.Extension

Completion goes on from what was typed.  It keeps the text up to the place where the
candidates go, and each candidate starts with what stood there: a name with what was
typed of it, a file with what was typed of its path.

There are two exceptions.  A path in the root directory loses its only slash: the working
directory is listed in the place of the root (`offersEntries_of_root`).  And where the
range behind colons is refused, the colons are lost; but what stands there starts no
name, so that nothing is offered for it (`candidates_of_losesColons`).

* `InputBox.offersEntries_of_fileCandidates` — the files that are offered;
* `InputBox.prefix_of_mem_items` — what is offered goes on from the text;
* `InputBox.completion_extends` — what the first press of the key shows.
-/

namespace ExMode

/-! ## the last slash of a path -/

namespace Text

variable {sep : Char} {t stem : Text}

/-- A text is what reaches up to its last separator, and the rest. -/
theorem exists_stem (sep : Char) (t : Text) : ∃ front stem, t = front ++ stem ∧ sep ∉ stem ∧
    (front = [] ∨ ∃ directory, front = directory ++ [sep]) := by
  by_cases h : sep ∈ t.reverse
  · obtain ⟨behind, before, ht, hbehind⟩ := List.eq_append_cons_of_mem h
    refine ⟨before.reverse ++ [sep], behind.reverse, ?_, by simpa using hbehind, .inr ⟨_, rfl⟩⟩
    rw [← List.reverse_reverse t, ht]
    simp
  · exact ⟨[], t, rfl, by simpa using h, .inl rfl⟩

theorem cutLast_of_not_mem (h : sep ∉ t) : cutLast sep t = (none, t) := by
  have hreverse : sep ∉ t.reverse := by simpa using h
  simp [cutLast, cut_of_not_mem hreverse]

theorem cutLast_append_cons (front : Text) (h : sep ∉ stem) :
    cutLast sep (front ++ sep :: stem) = (some front, stem) := by
  have hreverse : sep ∉ stem.reverse := by simpa using h
  simp [cutLast, cut_append_cons hreverse]

end Text

namespace InputBox

/-! ## files -/

section Files

variable {d : Disk} {base : Path} {front stem typed : Text} {items : List Text}

/-- How an entry of a directory is offered: behind what was typed in front of its name, and a slash
after a directory. -/
def offered (front n : Text) (e : Entry) : Text :=
  front ++ n ++ if e = .directory then ['/'] else []

/-- What is offered are the entries of a directory whose names start with a stem, and each of them
once. -/
structure OffersEntries (d : Disk) (base : Path) (front stem : Text) (items : List Text) :
    Prop where
  entry : ∀ c ∈ items, ∃ n e, d.entryIn? base n = some e ∧ stem <+: n ∧ c = offered front n e
  once : ∀ n e, d.entryIn? base n = some e → stem <+: n → items.count (offered front n e) = 1

theorem offered_eq_append (front n : Text) (e : Entry) :
    offered front n e = front ++ offered [] n e := by
  simp [offered]

/-- What was typed of a path is continued by what is offered for it. -/
theorem prefix_offered {n : Text} (h : stem <+: n) (front : Text) (e : Entry) :
    front ++ stem <+: offered front n e := by
  obtain ⟨more, rfl⟩ := h
  simp [offered]

/-- The name is what stands in front of the slash. -/
theorem cut_offered {n : Text} (hn : '/' ∉ n) (e : Entry) :
    (Text.cut '/' (offered [] n e)).1 = n := by
  unfold offered
  split
  · simp [Text.cut_append_cons hn]
  · simp [Text.cut_of_not_mem hn]

/-- The list of a directory, cut down to a stem, is offered. -/
theorem offersEntries_of_list (hd : d.IsNamed) (hbase : d.isDirectory base = .ok true)
    (h : ((d.list base).filter fun n => stem.isPrefixOf n).mapM (fun n => do
        let slash := if ← d.isDirectory (base.join ⟨.here, [n]⟩) then ['/'] else []
        return front ++ n ++ slash) = .ok items) :
    OffersEntries d base front stem items := by
  let names := (d.list base).filter fun n => stem.isPrefixOf n
  let entry (n : Text) : Entry := (d.entryIn? base n).getD .directory
  have hnames (n : Text) : n ∈ names ↔ (∃ e, d.entryIn? base n = some e) ∧ stem <+: n := by
    rw [List.mem_filter, Disk.mem_list hbase, Option.isSome_iff_exists,
      List.isPrefixOf_iff_prefix]
  have hentry {n : Text} {e : Entry} (he : d.entryIn? base n = some e) : entry n = e := by
    rw [show entry n = _ from congrArg (Option.getD · _) he, Option.getD_some]
  have hitems : items = names.map fun n => offered front n (entry n) := by
    refine mapM_eq_map (fun n hn c hc => ?_) h
    obtain ⟨⟨e, he⟩, -⟩ := (hnames n).1 hn
    obtain ⟨isDirectory, hdir, hc⟩ := bind_eq_ok.1 hc
    have hdir := Disk.isDirectory_join hbase (hd.isName_of_entryIn? he) hdir
    cases hc
    rw [hentry he, hdir, he]
    simp [offered]
  -- names without slashes can be told from what is offered for them
  have hinjective : ∀ n ∈ names, ∀ m ∈ names,
      offered front n (entry n) = offered front m (entry m) → n = m := by
    intro n hn m hm heq
    obtain ⟨⟨e, he⟩, -⟩ := (hnames n).1 hn
    obtain ⟨⟨e', he'⟩, -⟩ := (hnames m).1 hm
    rw [offered_eq_append, offered_eq_append front m, List.append_cancel_left_eq] at heq
    rw [← cut_offered (hd.isName_of_entryIn? he).not_slash (entry n), heq,
      cut_offered (hd.isName_of_entryIn? he').not_slash]
  have hnodup : items.Nodup := by
    rw [hitems]
    exact ((hd.nodup_list base).filter _).map_on hinjective
  refine ⟨fun c hc => ?_, fun n e he hstem => List.count_eq_one_of_mem hnodup ?_⟩
  · rw [hitems] at hc
    obtain ⟨n, hn, rfl⟩ := List.mem_map.1 hc
    obtain ⟨⟨e, he⟩, hstem⟩ := (hnames n).1 hn
    exact ⟨n, e, he, hstem, by rw [hentry he]⟩
  · rw [hitems, ← hentry he]
    exact List.mem_map_of_mem ((hnames n).2 ⟨⟨e, he⟩, hstem⟩)

/-- The files offered are those of the directory that the text names in front of its last slash; if
there is nothing in front of that, those of the working directory. -/
theorem offersEntries_of_cutLast (hd : d.IsNamed) {directory : Option Text}
    (hcut : Text.cutLast '/' typed = (directory, stem)) (h : fileCandidates d typed = .ok items) :
    let directory := directory.getD []
    OffersEntries d (Path.ofText directory) (if directory = [] then [] else directory ++ ['/'])
      stem items := by
  intro directory'
  unfold fileCandidates at h
  rw [hcut] at h
  obtain ⟨isDirectory, hbase, h⟩ := bind_eq_ok.1 h
  cases isDirectory with
  | true => exact offersEntries_of_list hd hbase h
  | false =>
    cases h
    refine ⟨fun c hc => absurd hc (by simp), fun n e he hstem => ?_⟩
    have hbase' := Disk.isDirectory_of_entryIn? he
    cases hbase.symm.trans hbase'

/-- Behind a slash that is not the first character, or without one, the files offered are those of
the directory that is typed. -/
theorem offersEntries_of_fileCandidates (hd : d.IsNamed) (hstem : '/' ∉ stem)
    (hfront : front = [] ∨ ∃ directory, directory ≠ [] ∧ front = directory ++ ['/'])
    (h : fileCandidates d (front ++ stem) = .ok items) :
    OffersEntries d (Path.ofText front) front stem items := by
  obtain rfl | ⟨directory, hne, rfl⟩ := hfront
  · exact offersEntries_of_cutLast hd (Text.cutLast_of_not_mem hstem) h
  · rw [List.append_assoc] at h
    have hoffers : OffersEntries d (Path.ofText directory)
        (if directory = [] then [] else directory ++ ['/']) stem items :=
      offersEntries_of_cutLast hd (Text.cutLast_append_cons directory hstem) h
    rw [if_neg hne] at hoffers
    refine ⟨fun c hc => ?_, fun n e he => ?_⟩
    · simpa only [Disk.entryIn?_ofText_append_slash d hne] using hoffers.entry c hc
    · rw [Disk.entryIn?_ofText_append_slash d hne] at he
      exact hoffers.once n e he

/-- For a path in the root directory the files of the working directory are offered, without the
slash. -/
theorem offersEntries_of_root (hd : d.IsNamed) (hstem : '/' ∉ stem)
    (h : fileCandidates d ('/' :: stem) = .ok items) :
    OffersEntries d Path.current [] stem items :=
  offersEntries_of_cutLast hd (Text.cutLast_append_cons [] hstem) h

end Files

/-! ## where candidates go -/

variable {t : Table} {d : Disk} {s s' : Session} {text argument shown : Text} {position : Nat}
  {items : List Text} {reverse : Bool}

/-- Whether colons stand in front of a range that is refused. -/
def LosesColons (text : Text) : Prop :=
  text.head? = some ':' ∧ ∃ f, LineRange.parse (text.trimLeftOf ':') = .error f

/-- Whether a text ends in the name of a command that takes a file, a space, and what was typed of
the file. -/
def CompletesFile (t : Table) (text argument : Text) : Prop :=
  ∃ range front rest name row, LineRange.splitFront text = .ok (range, front, rest) ∧
    Text.cut ' ' rest.trimLeft = (name, some argument) ∧
    t.find? (Text.trimRightOf '!' name) = some row ∧ row.name ∈ t.fileCommands

/-- Unless colons are lost, a line is cut in two. -/
theorem append_of_not_losesColons (h : ¬ LosesColons text) {range : Option LineRange}
    {front rest : Text} (hfront : LineRange.splitFront text = .ok (range, front, rest)) :
    front ++ rest = text := by
  obtain ⟨-, happend⟩ | ⟨hrefused, rfl, rfl⟩ := LineRange.splitFront_cases hfront
  · exact happend
  · exact Text.trimLeftOf_of_head?_ne fun hcolon => h ⟨hcolon, hrefused⟩

/-- Files are offered for the argument of a command that takes one. -/
theorem candidates_of_file {range : Option LineRange} {front rest name : Text} {row : Row}
    (hfront : LineRange.splitFront text = .ok (range, front, rest))
    (hcut : Text.cut ' ' rest.trimLeft = (name, some argument))
    (hfind : t.find? (Text.trimRightOf '!' name) = some row) (hrow : row.name ∈ t.fileCommands)
    (d : Disk) : candidates t d text = (fileCandidates d argument).map fun items =>
      (front.length + (rest.length - rest.trimLeft.length) + name.length + 1, items) := by
  simp only [candidates, hfront, bind, Except.bind, hcut, hfind, List.contains_iff_mem.2 hrow]
  cases fileCandidates d argument <;> rfl

theorem fileCandidates_of_completesFile (hfile : CompletesFile t text argument)
    (h : candidates t d text = .ok (position, items)) :
    fileCandidates d argument = .ok items ∧
      (¬ LosesColons text → text.drop position = argument) := by
  obtain ⟨range, front, rest, name, row, hfront, hcut, hfind, hrow⟩ := hfile
  rw [candidates_of_file hfront hcut hfind hrow] at h
  cases hitems : fileCandidates d argument with
  | error f =>
    rw [hitems] at h
    cases h
  | ok found =>
    rw [hitems] at h
    cases h
    refine ⟨rfl, fun hkept => ?_⟩
    obtain ⟨-, hdrop⟩ := take_drop_start (append_of_not_losesColons hkept hfront)
    have hword := Text.cut_append ' ' rest.trimLeft
    rw [hcut] at hword
    rw [Nat.add_assoc, ← List.drop_drop, hdrop, ← hword]
    simp

/-- Names are offered for what is typed of a name, and files for what is typed of a file. -/
theorem candidates_cases (h : candidates t d text = .ok (position, items)) :
    items = [] ∨
      (∃ typed, items = t.completions typed ∧ (¬ LosesColons text → text.drop position = typed)) ∨
      ∃ argument, CompletesFile t text argument := by
  unfold candidates at h
  obtain ⟨⟨range, front, rest⟩, hfront, h⟩ := bind_eq_ok.1 h
  dsimp only at h
  split at h
  · rename_i name hcut
    cases h
    refine .inr (.inl ⟨name, rfl, fun hkept => ?_⟩)
    obtain ⟨-, hdrop⟩ := take_drop_start (append_of_not_losesColons hkept hfront)
    have hword := Text.cut_append ' ' rest.trimLeft
    rw [hcut] at hword
    exact hdrop.trans (hword.symm.trans (List.append_nil name))
  · rename_i name argument hcut
    split at h
    · cases h
      exact .inl rfl
    · rename_i row hfind
      split at h
      · rename_i hrow
        exact .inr (.inr ⟨argument, range, front, rest, name, row, hfront, hcut, hfind,
          List.contains_iff_mem.1 hrow⟩)
      · cases h
        exact .inl rfl

/-- Where colons are lost nothing is offered, as long as names start with letters. -/
theorem candidates_of_losesColons (hlost : LosesColons text)
    (ht : ∀ row ∈ t.rows, ∃ c r, row.name = c :: r ∧ isAsciiLetter c = true)
    (h : candidates t d text = .ok (position, items)) : items = [] := by
  obtain ⟨-, f, hparse⟩ := hlost
  obtain ⟨⟨range, front, rest⟩, hfront, -⟩ := bind_eq_ok.1 h
  obtain ⟨hread, -⟩ | ⟨-, -, hrest⟩ := LineRange.splitFront_cases hfront
  · cases hparse.symm.trans hread
  rw [← hrest] at hparse
  obtain hnil | ⟨c, r, hword, hblank⟩ := Text.trimLeft_eq_nil_or rest
  · rw [LineRange.parse_eq_of_trimLeft (u := []) hnil] at hparse
    cases hparse
  -- what is refused starts neither like a name nor with a bang
  have hletter : isAsciiLetter c = false := by
    refine Bool.eq_false_iff.2 fun hc => ?_
    have hstarts : LineRange.StartsWord rest.trimLeft := ⟨c, r, hword, hc⟩
    rw [LineRange.parse_eq_of_trimLeft (Text.trimLeft_trimLeft rest).symm,
      hstarts.parse_eq_none] at hparse
    cases hparse
  have hspace : c ≠ ' ' := by
    rintro rfl
    cases hblank
  have hbang : c ≠ '!' := by
    rintro rfl
    unfold LineRange.parse at hparse
    rw [hword] at hparse
    cases hparse
  have hnames : ∀ row ∈ t.rows, row.name.head? ≠ some c := by
    intro row hrow hhead
    obtain ⟨c', r', hname, hc'⟩ := ht row hrow
    rw [hname] at hhead
    cases hhead
    rw [hletter] at hc'
    cases hc'
  rw [candidates_of_no_name hfront hword hspace hbang hnames] at h
  cases h
  rfl

/-- What is offered goes on from the text, unless colons are lost or a file in the root directory is
typed. -/
theorem prefix_of_mem_items (hd : d.IsNamed) (h : candidates t d text = .ok (position, items))
    (hkept : ¬ LosesColons text)
    (hroot : ∀ stem, '/' ∉ stem → ¬ CompletesFile t text ('/' :: stem)) {c : Text}
    (hc : c ∈ items) : text <+: text.take position ++ c := by
  suffices hdrop : text.drop position <+: c by
    have happend := (List.prefix_append_right_inj (text.take position)).2 hdrop
    rwa [List.take_append_drop] at happend
  obtain rfl | ⟨typed, rfl, hdrop⟩ | ⟨argument, hfile⟩ := candidates_cases h
  · cases hc
  · rw [hdrop hkept]
    exact (Table.mem_completions hc).2
  · obtain ⟨hfiles, hdrop⟩ := fileCandidates_of_completesFile hfile h
    rw [hdrop hkept]
    obtain ⟨front, stem, rfl, hstem, hfront⟩ := Text.exists_stem '/' argument
    have hfront : front = [] ∨ ∃ directory, directory ≠ [] ∧ front = directory ++ ['/'] := by
      obtain hnil | ⟨directory, rfl⟩ := hfront
      · exact .inl hnil
      · refine .inr ⟨directory, ?_, rfl⟩
        rintro rfl
        exact hroot stem hstem hfile
    obtain ⟨n, e, -, hn, rfl⟩ :=
      (offersEntries_of_fileCandidates hd hstem hfront hfiles).entry c hc
    exact prefix_offered hn front e

/-- What is offered for a file in the root directory starts with a name, and the text goes on with a
slash there. -/
theorem not_prefix_of_mem_items (hd : d.IsNamed) (h : candidates t d text = .ok (position, items))
    (hkept : ¬ LosesColons text) {stem : Text} (hstem : '/' ∉ stem)
    (hfile : CompletesFile t text ('/' :: stem)) {c : Text} (hc : c ∈ items) :
    ¬ text <+: text.take position ++ c := by
  intro hprefix
  obtain ⟨hfiles, hdrop⟩ := fileCandidates_of_completesFile hfile h
  obtain ⟨n, e, he, -, rfl⟩ := (offersEntries_of_root hd hstem hfiles).entry c hc
  have hname := hd.isName_of_entryIn? he
  nth_rewrite 1 [← List.take_append_drop position text] at hprefix
  rw [List.prefix_append_right_inj, hdrop hkept] at hprefix
  obtain ⟨more, hmore⟩ := hprefix
  obtain ⟨first, r, rfl⟩ := List.exists_cons_of_ne_nil hname.ne_nil
  obtain rfl : '/' = first := Option.some.inj (congrArg List.head? hmore)
  exact hname.not_slash List.mem_cons_self

/-! ## what is shown -/

/-- The first press of the key holds on to the candidates, and shows one of them; without any it
shows the text. -/
theorem complete_cases (hs : s.completion.isActive = false)
    (hrun : runFrom (complete t text reverse) s = (.ok shown, s')) :
    ∃ position, candidates t s.editor.disk text = .ok (position, s'.completion.items) ∧
      (s'.completion.items = [] ∧ shown = text ∨
        s'.completion.position = position ∧
          ∃ c ∈ s'.completion.items, shown = text.take position ++ c) := by
  cases hitems : candidates t s.editor.disk text with
  | error f =>
    simp only [complete, runFrom_bind, runFrom_modify, runFrom_get, hs, Bool.false_eq_true,
      if_false, runFrom_ofExcept, hitems] at hrun
    cases hrun
  | ok found =>
    obtain ⟨position, items⟩ := found
    by_cases hne : items = []
    · subst hne
      rw [runFrom_complete_of_nothing hs hitems] at hrun
      cases hrun
      have hnone : s.completion.items = [] := by
        simpa [Completion.isActive] using hs
      exact ⟨position, by simp [hnone], .inl ⟨hnone, rfl⟩⟩
    · obtain ⟨c, hc, index, hcomplete⟩ := runFrom_complete_of_inactive reverse hs hitems hne
      rw [hcomplete] at hrun
      cases hrun
      exact ⟨position, rfl, .inr ⟨rfl, c, hc, rfl⟩⟩

/-- Completion extends what was typed.  The first press of the key shows one of the candidates
behind what is kept of the text, or the text itself; each candidate goes on from the text, unless
colons are lost or a file in the root directory is typed.  Where colons are lost and names start
with letters, nothing is offered.  For a file, just the entries of the directory that is typed are
offered whose names go on from what is typed behind the last slash, each of them once, behind what
is typed of the directory, and a slash after directories.  In the root directory the entries of the
working directory are offered, without the slash, so that what is shown does not go on from the
text. -/
theorem completion_extends (hd : s.editor.disk.IsNamed) (hs : s.completion.isActive = false)
    (hrun : runFrom (complete t text reverse) s = (.ok shown, s')) :
    let d := s.editor.disk
    let position := s'.completion.position
    let items := s'.completion.items
    (items = [] ∧ shown = text ∨ ∃ c ∈ items, shown = text.take position ++ c) ∧
    (¬ LosesColons text → (∀ stem, '/' ∉ stem → ¬ CompletesFile t text ('/' :: stem)) →
      text <+: shown ∧ ∀ c ∈ items, text <+: text.take position ++ c) ∧
    (LosesColons text → (∀ row ∈ t.rows, ∃ c r, row.name = c :: r ∧ isAsciiLetter c = true) →
      items = [] ∧ shown = text) ∧
    ∀ front stem, CompletesFile t text (front ++ stem) → '/' ∉ stem →
      ((front = [] ∨ ∃ directory, directory ≠ [] ∧ front = directory ++ ['/']) →
        OffersEntries d (Path.ofText front) front stem items) ∧
      (front = ['/'] →
        OffersEntries d Path.current [] stem items ∧
        (¬ LosesColons text → items ≠ [] → ¬ text <+: shown)) := by
  intro d position items
  obtain ⟨place, hitems, hshown⟩ := complete_cases hs hrun
  refine ⟨?_, fun hkept hroot => ?_, fun hlost ht => ?_,
    fun front stem hfile hstem => ⟨fun hfront => ?_, ?_⟩⟩
  · obtain hnone | ⟨rfl, hc⟩ := hshown
    · exact .inl hnone
    · exact .inr hc
  · obtain ⟨hnil, rfl⟩ | ⟨rfl, c, hc, rfl⟩ := hshown
    · exact ⟨List.prefix_rfl, fun c hc => absurd hc (by simp [items, hnil])⟩
    · exact ⟨prefix_of_mem_items hd hitems hkept hroot hc,
        fun c' hc' => prefix_of_mem_items hd hitems hkept hroot hc'⟩
  · obtain hnone | ⟨-, c, hc, -⟩ := hshown
    · exact hnone
    · rw [candidates_of_losesColons hlost ht hitems] at hc
      cases hc
  · exact offersEntries_of_fileCandidates hd hstem hfront
      (fileCandidates_of_completesFile hfile hitems).1
  · rintro rfl
    refine ⟨offersEntries_of_root hd hstem (fileCandidates_of_completesFile hfile hitems).1,
      fun hkept hne => ?_⟩
    obtain ⟨hnil, -⟩ | ⟨-, c, hc, rfl⟩ := hshown
    · exact absurd hnil hne
    · exact not_prefix_of_mem_items hd hitems hkept hstem hfile hc

theorem mem_fileCommands {row : Row} (hrow : row ∈ t.rows) (hfile : row.takesFile = true) :
    row.name ∈ t.fileCommands := by
  rw [Table.fileCommands, List.mem_mergeSort, List.mem_eraseDups]
  exact List.mem_map_of_mem (List.mem_filter.2 ⟨hrow, hfile⟩)

/-- Behind a range and a bang, a directory is completed in a directory. -/
theorem completion_extends_ranged :
    let t := Table.ofExtra [] []
    let d : Disk := ⟨[(["src".toList], .directory), (["src".toList, "lib".toList], .directory)],
      [], [], [], .standard⟩
    let s := Session.start ⟨Buffer.ofText [] none, Registers.empty, d⟩ (.new (.memory []))
    let text := ": 1,$w! src/l".toList
    ∃ s', runFrom (complete t text false) s = (.ok ": 1,$w! src/lib/".toList, s') ∧
      text <+: ": 1,$w! src/lib/".toList ∧
      OffersEntries d (Path.ofText "src/".toList) "src/".toList ['l'] s'.completion.items ∧
      d.entryIn? (Path.ofText "src/".toList) "lib".toList = some .directory := by
  intro t d s text
  have hfront : LineRange.splitFront text = .ok (some (.pair ⟨.line 1, 0⟩ .comma ⟨.last, 0⟩),
      ": 1,$".toList, "w! src/l".toList) := by decide +kernel
  have hcut : Text.cut ' ' (Text.trimLeft "w! src/l".toList) =
      ("w!".toList, some "src/l".toList) := by decide
  obtain ⟨row, hfind, htakes⟩ : ∃ row, t.find? (Text.trimRightOf '!' "w!".toList) = some row ∧
      row.takesFile = true := ⟨_, rfl, rfl⟩
  have hrow := mem_fileCommands (Table.mem_of_find? hfind) htakes
  have hitems : candidates t d text = .ok (8, ["src/lib/".toList]) :=
    (candidates_of_file hfront hcut hfind hrow d).trans (by decide +kernel)
  have hrun := runFrom_complete_of_items (t := t) (s := s) false rfl hitems (List.cons_ne_nil _ _)
  have hd : d.IsNamed := ⟨by decide, by decide⟩
  have hkept : ¬ LosesColons text := by
    rintro ⟨-, f, hf⟩
    obtain ⟨hparse, -⟩ | ⟨-, hnil, -⟩ := LineRange.splitFront_cases hfront
    · cases hparse.symm.trans hf
    · cases hnil
  have hroot (stem : Text) (_ : '/' ∉ stem) : ¬ CompletesFile t text ('/' :: stem) := by
    intro hfile
    cases (fileCandidates_of_completesFile hfile hitems).2 hkept
  have hfile : CompletesFile t text ("src/".toList ++ ['l']) :=
    ⟨_, _, _, _, _, hfront, hcut, hfind, hrow⟩
  obtain ⟨-, hextends, -, hoffers⟩ := completion_extends hd rfl hrun
  exact ⟨_, hrun, (hextends hkept hroot).1,
    (hoffers _ _ hfile (by decide)).1 (.inr ⟨"src".toList, by decide, rfl⟩), by decide +kernel⟩

/-- In the root directory a file is typed, and one of the working directory is shown. -/
theorem completion_extends_not_in_root :
    let t := Table.ofExtra [] []
    let d : Disk := ⟨[(["home".toList], .directory),
      (["home".toList, "notes".toList], .file [] false), (["nobody".toList], .file [] false)],
      ["home".toList], [], [], .standard⟩
    let s := Session.start ⟨Buffer.ofText [] none, Registers.empty, d⟩ (.new (.memory []))
    let text := "w /no".toList
    d.IsNamed ∧ s.completion.isActive = false ∧ CompletesFile t text "/no".toList ∧
      (∃ s', runFrom (complete t text false) s = (.ok "w notes".toList, s') ∧
        s'.completion.items = ["notes".toList]) ∧
      ¬ text <+: "w notes".toList ∧
      d.entryIn? (Path.ofText "/".toList) "notes".toList = none ∧
      d.entryIn? (Path.ofText "/".toList) "nobody".toList = some (.file [] false) := by
  intro t d s text
  have hfront : LineRange.splitFront text = .ok (none, [], text) := by decide +kernel
  have hcut : Text.cut ' ' (Text.trimLeft text) = (['w'], some "/no".toList) := by decide
  obtain ⟨row, hfind, htakes⟩ : ∃ row, t.find? (Text.trimRightOf '!' ['w']) = some row ∧
      row.takesFile = true := ⟨_, rfl, rfl⟩
  have hrow := mem_fileCommands (Table.mem_of_find? hfind) htakes
  have hitems : candidates t d text = .ok (2, ["notes".toList]) :=
    (candidates_of_file hfront hcut hfind hrow d).trans (by decide +kernel)
  have hrun := runFrom_complete_of_items (t := t) (s := s) false rfl hitems (List.cons_ne_nil _ _)
  exact ⟨⟨by decide, by decide⟩, rfl, ⟨_, _, _, _, _, hfront, hcut, hfind, hrow⟩, ⟨_, hrun, rfl⟩,
    by decide, by decide +kernel, by decide +kernel⟩

end InputBox

end ExMode

import OsDetection.Proofs.Database.Boundaries
import OsDetection.Ranking

/-!
# Two ways to write silence

That a probe got no answer is written `T1()` or `T1(R=N)`, in a record as well as in a query. Either
kind of text has a form in which every marker `R=N` that stands alone is left out
(`Query.dropMarkers`, `Database.dropMarkers`), and is read as this form is. A marker written into
empty brackets leaves the form as it was (`Query.dropMarkers_append_marker`,
`Database.Marked.dropMarkers_eq`). So one way to write silence can take the other's place
(`silence_written_either_way`), whether or not the texts are accepted and whether or not the groups
exist. Inside the point table there is no silence, and the brackets are left as they are.
-/

namespace OsDetection

open OsDetection.Text

/-! ## Queries -/

namespace Query

/-- A query without the markers that stand alone in their brackets. -/
def dropMarkers : List Char → List Char
  | [] => []
  | '(' :: 'R' :: '=' :: 'N' :: ')' :: cs => '(' :: ')' :: dropMarkers cs
  | c :: cs => c :: dropMarkers cs

/-- Writing the marker into empty brackets leaves the query the same without it. -/
theorem dropMarkers_append_marker (cs ds : List Char) :
    dropMarkers (cs ++ "(R=N)".toList ++ ds) = dropMarkers (cs ++ "()".toList ++ ds) := by
  induction cs using dropMarkers.induct with
  | case1 => rfl
  | case2 cs ih => exact congrArg ('(' :: ')' :: ·) ih
  | case3 c cs hc ih =>
    -- A marker that was begun before the brackets is not ended by them.
    have hcut (es : List Char) : dropMarkers (c :: (cs ++ '(' :: es)) =
        c :: dropMarkers (cs ++ '(' :: es) := by
      refine dropMarkers.eq_3 c _ fun fs hbracket h => ?_
      rcases cs with _ | ⟨c₁, _ | ⟨c₂, _ | ⟨c₃, _ | ⟨c₄, cs⟩⟩⟩⟩ <;> simp_all
    simpa [hcut] using ih

namespace Reading

variable {r m : Reading}

/-- An opening bracket is only read behind the name of a group, whose tests come next. -/
theorem place_of_step_bracket (h : (r.step '(').outcome = .ok m) :
    ∃ probe, m.place = .testName probe [] "" := by
  have hvisible : r.step '(' = r.visible '(' := rfl
  rw [hvisible, visible] at h
  cases hplace : r.place with
  | groupName name =>
    rw [hplace] at h
    dsimp only [inGroupName] at h
    rw [if_pos rfl] at h
    unfold openGroup at h
    split at h
    · cases h
    · next probe _ =>
      split at h
      · cases h
      · cases h
        exact ⟨probe, rfl⟩
  | testName probe tests name =>
    rw [hplace] at h
    cases h
  | value probe tests test nameLine text =>
    rw [hplace] at h
    cases h

/-- The marker is a test that every group allows. -/
theorem addTest_marker (line nameLine : Nat) (probe : Probe) :
    addTest line nameLine probe [] "R" "N" = pure [("R", "N")] := by
  have hsilence : Observation.meansSilence "R" "N" := rfl
  unfold addTest
  rw [hsilence, Bool.or_true]
  rfl

/-- Before any test the marker changes nothing, if its group ends with it. -/
theorem foldl_marker {probe : Probe} (h : m.place = .testName probe [] "") (cs : List Char) :
    Logged.foldl step m ('R' :: '=' :: 'N' :: ')' :: cs) = Logged.foldl step m (')' :: cs) := by
  obtain ⟨line, query, place⟩ := m
  obtain rfl : place = .testName probe [] "" := h
  have htest : step ⟨line, query, .testName probe [] ""⟩ 'R' =
      pure ⟨line, query, .testName probe [] "R"⟩ := rfl
  have hequals : step ⟨line, query, .testName probe [] "R"⟩ '=' =
      pure ⟨line, query, .value probe [] "R" line ""⟩ := rfl
  have hvalue : step ⟨line, query, .value probe [] "R" line ""⟩ 'N' =
      pure ⟨line, query, .value probe [] "R" line "N"⟩ := rfl
  have hend : step ⟨line, query, .value probe [] "R" line "N"⟩ ')' =
      addTest line line probe [] "R" "N" >>= fun tests =>
        closeGroup ⟨line, query, .value probe [] "R" line "N"⟩ probe tests := rfl
  have hsilent : closeGroup ⟨line, query, .value probe [] "R" line "N"⟩ probe [("R", "N")] =
      step ⟨line, query, .testName probe [] ""⟩ ')' := rfl
  simp only [Logged.foldl_cons, htest, hequals, hvalue, hend, addTest_marker, hsilent,
    Logged.pure_bind]

/-- A query is read as it is without the markers that stand alone. -/
theorem foldl_dropMarkers (r : Reading) (cs : List Char) :
    Logged.foldl step r (dropMarkers cs) = Logged.foldl step r cs := by
  induction cs using dropMarkers.induct generalizing r with
  | case1 => rfl
  | case2 cs ih =>
    rw [dropMarkers, Logged.foldl_cons, Logged.foldl_cons]
    refine Logged.bind_congr_of_ok fun m hm => ?_
    obtain ⟨probe, hplace⟩ := place_of_step_bracket hm
    rw [foldl_marker hplace, Logged.foldl_cons, Logged.foldl_cons]
    exact Logged.bind_congr_of_ok fun m _ => ih m
  | case3 c cs hc ih =>
    rw [dropMarkers, Logged.foldl_cons, Logged.foldl_cons]
    · exact Logged.bind_congr_of_ok fun m _ => ih m
    · exact hc

end Reading

/-- A query is read as any other that is the same without the markers. -/
theorem ofText_eq_of_dropMarkers {text text' : String}
    (h : dropMarkers text.toList = dropMarkers text'.toList) : ofText text = ofText text' := by
  unfold ofText
  rw [← Reading.foldl_dropMarkers, h, Reading.foldl_dropMarkers]

end Query

/-! ## Databases -/

/-- A line of a record without the marker, if that stands alone in the brackets of a group. -/
def Line.dropMarker (cs : List Char) : List Char :=
  match group? cs with
  | some (name, body) => if body = "R=N".toList then name ++ "()".toList else cs
  | none => cs

/-- Writing the marker into the empty brackets of a group leaves the line the same without it. -/
theorem Line.dropMarker_marker {name : List Char} (named : name ≠ [])
    (alphanum : name.all (·.isAlphanum)) :
    dropMarker (name ++ "(R=N)".toList) = dropMarker (name ++ "()".toList) := by
  have hlong : group? (name ++ "(R=N)".toList) = some (name, "R=N".toList) :=
    group?_eq_some_iff.2 ⟨rfl, named, alphanum, by simp, by simp⟩
  have hshort : group? (name ++ "()".toList) = some (name, []) :=
    group?_eq_some_iff.2 ⟨rfl, named, alphanum, by simp, by simp⟩
  unfold dropMarker
  rw [hlong, hshort]
  rfl

/-- There are no blanks at the end of such a line, if there were none before. -/
theorem Line.trimEnd_dropMarker {cs : List Char} (h : trimEnd cs = cs) :
    trimEnd (dropMarker cs) = dropMarker cs := by
  unfold dropMarker
  split
  · split
    · exact Line.trimEnd_group _ []
    · exact h
  · exact h

namespace Database

/-- Whether the point table goes on after a line. -/
def insideAfter (inside : Bool) (cs : List Char) : Bool :=
  cs ≠ [] && (inside || cs = "MatchPoints".toList)

/-- The lines of a database, without the blanks at their ends and without the markers that stand
alone. `inside` is whether the lines begin in the point table, where there are none. -/
def dropMarkers : Bool → List (List Char) → List (List Char)
  | _, [] => []
  | inside, l :: ls =>
    (if inside then trimEnd l else Line.dropMarker (trimEnd l)) ::
      dropMarkers (insideAfter inside (trimEnd l)) ls

/-- Whether the point table goes on after lines. -/
def insideAfterAll (inside : Bool) (ls : List (List Char)) : Bool :=
  ls.foldl (fun inside l => insideAfter inside (trimEnd l)) inside

/-- In the second text, one line `G()` of the first became `G(R=N)`. It stands outside the point
table; the group need not exist, and blanks may follow. -/
inductive Marked (text text' : String) : Prop
  | line {before after : List (List Char)} {name blanks blanks' : List Char} (named : name ≠ [])
    (alphanum : name.all (·.isAlphanum)) (outside : insideAfterAll false before = false)
    (blank : ∀ c ∈ blanks, isBlank c) (blank' : ∀ c ∈ blanks', isBlank c)
    (unmarked : lines text.toList = before ++ (name ++ "()".toList ++ blanks) :: after)
    (marked : lines text'.toList = before ++ (name ++ "(R=N)".toList ++ blanks') :: after)

theorem dropMarkers_append (inside : Bool) (ls ls' : List (List Char)) :
    dropMarkers inside (ls ++ ls') =
      dropMarkers inside ls ++ dropMarkers (insideAfterAll inside ls) ls' := by
  induction ls generalizing inside with
  | nil => rfl
  | cons l ls ih => simp [dropMarkers, insideAfterAll, ih]

/-- The point table does not begin with a group. -/
theorem insideAfter_of_mem {cs : List Char} (h : '(' ∈ cs) : insideAfter false cs = false := by
  rw [insideAfter, decide_eq_false (Line.ne_heading_of_mem h), Bool.or_self, Bool.and_false]

/-- Writing the marker into the empty brackets of a line leaves the database the same without it. -/
theorem Marked.dropMarkers_eq {text text' : String} (h : Marked text text') :
    dropMarkers false (lines text.toList) = dropMarkers false (lines text'.toList) := by
  obtain @⟨before, after, name, blanks, blanks', named, alphanum, outside, blank, blank', unmarked,
    marked⟩ := h
  have hshort : trimEnd (name ++ "()".toList ++ blanks) = name ++ "()".toList :=
    (trimEnd_append blank).trans (Line.trimEnd_group name [])
  have hlong : trimEnd (name ++ "(R=N)".toList ++ blanks') = name ++ "(R=N)".toList :=
    (trimEnd_append blank').trans (Line.trimEnd_group name "R=N".toList)
  rw [unmarked, marked, dropMarkers_append, dropMarkers_append, outside, dropMarkers, dropMarkers,
    hshort, hlong, insideAfter_of_mem (by simp), insideAfter_of_mem (by simp)]
  simp only [Bool.false_eq_true, if_false, Line.dropMarker_marker named alphanum]

theorem length_dropMarkers (inside : Bool) (ls : List (List Char)) :
    (dropMarkers inside ls).length = ls.length := by
  induction ls generalizing inside with
  | nil => rfl
  | cons l ls ih => simp [dropMarkers, ih]

namespace Reading

variable {r r' : Reading} {source : String} {n : Nat}

/-- Where the point table begins and ends can be told from the lines. -/
theorem Moves.isSome_table {cs : List Char} (h : Moves n cs r r') :
    r'.table.isSome = insideAfter r.table.isSome cs := by
  cases htable : r.table with
  | none =>
    by_cases hcs : cs = "MatchPoints".toList
    · subst hcs
      rw [(h.heading_inv htable).2]
      rfl
    · rw [h.table_eq_none hcs htable, insideAfter, decide_eq_false hcs, Option.isSome_none,
        Bool.or_self, Bool.and_false]
  | some table =>
    rcases h.inside htable with ⟨hvisible, table', rfl⟩ | ⟨rfl, rfl⟩
    · simp [insideAfter, hvisible]
    · rfl

/-- Silence is added to a record alike, however it is written, and whatever the line is. -/
theorem addGroup_marker (content content' : String) (name : List Char) :
    addGroup source r n content name "R=N".toList = addGroup source r n content' name [] := by
  have hbody (probe : Probe) : Response.ofBody source n content probe "R=N".toList =
      Response.ofBody source n content' probe [] := rfl
  simp only [addGroup, hbody]

/-- A line of a record is read as it is without the marker. -/
theorem recordLine_dropMarker (cs : List Char) :
    recordLine source r n (Line.dropMarker cs) = recordLine source r n cs := by
  unfold Line.dropMarker
  cases hgroup : Line.group? cs with
  | none => rfl
  | some parts =>
    obtain ⟨name, body⟩ := parts
    dsimp only
    split
    · next hbody =>
      obtain ⟨rfl, named, alphanum, opened, closed⟩ := Line.group?_eq_some_iff.1 hgroup
      obtain rfl := hbody
      have hshort : Line.ofText (name ++ "()".toList) = .group name [] :=
        (@Line.Says.group name [] named alphanum (by simp) (by simp)).ofText_eq
      have hlong := (Line.Says.group named alphanum opened closed).ofText_eq
      unfold recordLine
      rw [hshort, hlong]
      exact (addGroup_marker _ _ name).symm
    · rfl

/-- A line is read as it is without the marker, unless it stands in the point table. -/
theorem step_dropMarker (l : List Char) :
    step source r (if r.table.isSome then trimEnd l else Line.dropMarker (trimEnd l), n) =
      step source r (l, n) := by
  unfold step
  cases htable : r.table with
  | none =>
    simp only [Option.isSome_none, Bool.false_eq_true, if_false]
    rw [Line.trimEnd_dropMarker (trimEnd_trimEnd l), recordLine_dropMarker]
  | some table => simp only [Option.isSome_some, if_true, trimEnd_trimEnd]

/-- Lines are read as they are without the markers that stand alone. -/
theorem foldl_dropMarkers (r : Reading) (n : Nat) (ls : List (List Char)) :
    Logged.foldl (step source) r ((dropMarkers r.table.isSome ls).zipIdx n) =
      Logged.foldl (step source) r (ls.zipIdx n) := by
  induction ls generalizing r n with
  | nil => rfl
  | cons l ls ih =>
    simp only [dropMarkers, List.zipIdx_cons, Logged.foldl_cons, step_dropMarker]
    refine Logged.bind_congr_of_ok fun m hm => ?_
    rw [← (outcome_step_eq_ok_iff.1 hm).isSome_table]
    exact ih m (n + 1)

end Reading

/-- A database is read as it is without the markers that stand alone. -/
theorem ofLines_dropMarkers (source : String) (ls : List (List Char)) :
    ofLines source (dropMarkers false ls) = ofLines source ls := by
  unfold ofLines
  rw [length_dropMarkers]
  exact congrArg (· >>= _) (Reading.foldl_dropMarkers .start 1 ls)

/-- A database is read as any other that is the same without the markers. -/
theorem ofText_eq_of_dropMarkers {text text' : String} (source : String)
    (h : dropMarkers false (lines text.toList) = dropMarkers false (lines text'.toList)) :
    ofText source text = ofText source text' := by
  unfold ofText
  rw [← ofLines_dropMarkers, h, ofLines_dropMarkers]

/-- A query matches as any other that is the same without the markers. -/
theorem matchQuery_eq_of_dropMarkers (d : Database) {query query' : String} (limit : Nat)
    (h : Query.dropMarkers query.toList = Query.dropMarkers query'.toList) :
    d.matchQuery query limit = d.matchQuery query' limit := by
  unfold matchQuery
  rw [Query.ofText_eq_of_dropMarkers h]

end Database

/-! ## Either way -/

/-- **Silence may be written either way.** A line `G()` of a record, whatever the name, can become
`G(R=N)`, and so can a group of a query: databases are read alike, be they accepted or not, and
queries match alike, whatever the limit is. The same holds of any texts that are the same without
the markers that stand alone, in however many places they differ. -/
theorem silence_written_either_way (source : String) (limit : Nat) :
    (∀ text text' : String, Database.Marked text text' →
      Database.ofText source text = Database.ofText source text') ∧
    (∀ (d : Database) (before after : String),
      d.matchQuery (before ++ "()" ++ after) limit =
        d.matchQuery (before ++ "(R=N)" ++ after) limit) ∧
    (∀ text text' : String,
      Database.dropMarkers false (lines text.toList) =
        Database.dropMarkers false (lines text'.toList) →
      Database.ofText source text = Database.ofText source text') ∧
    ∀ (d : Database) (query query' : String),
      Query.dropMarkers query.toList = Query.dropMarkers query'.toList →
      d.matchQuery query limit = d.matchQuery query' limit := by
  refine ⟨fun text text' h => Database.ofText_eq_of_dropMarkers source h.dropMarkers_eq,
    fun d before after => d.matchQuery_eq_of_dropMarkers limit ?_,
    fun text text' => Database.ofText_eq_of_dropMarkers source,
    fun d query query' => d.matchQuery_eq_of_dropMarkers limit⟩
  simpa only [String.toList_append] using
    (Query.dropMarkers_append_marker before.toList after.toList).symm

/-- `OPS` has no test `R`, `SCAN` may be silent, and `X1` is no group, so that the query is not
accepted, and that alike. -/
theorem silence_written_either_way_without_r :
    let text := "MatchPoints\nT1(R=30)\n\nFingerprint box\nSCAN()\nSEQ()\nOPS(R=N)\nWIN()
ECN()\nT1()\nT2()\nT3()\nT4()\nT5()\nT6()\nT7()\nU1()\nIE()"
    let marked := "MatchPoints\nT1(R=30)\n\nFingerprint box\nSCAN()\nSEQ()\nOPS(R=N)\nWIN(R=N)
ECN()\nT1()\nT2()\nT3()\nT4()\nT5()\nT6()\nT7()\nU1()\nIE()"
    let other := "MatchPoints\nT1(R=30)\n\nFingerprint box\nSCAN(R=N)\nSEQ()\nOPS()\nWIN()
ECN()\nT1(R=N)\nT2()\nT3()\nT4()\nT5()\nT6()\nT7()\nU1()\nIE()"
    (Database.ofText "" text).outcome.isOk ∧
      Database.ofText "" text = Database.ofText "" marked ∧
      Database.ofText "" text = Database.ofText "" other ∧
      (∀ d : Database, d.matchQuery ("OPS" ++ "()" ++ "X1()") 3 =
        d.matchQuery ("OPS" ++ "(R=N)" ++ "X1()") 3) ∧
      ∀ d : Database, d.matchQuery "OPS(R=N)T1()X1()" 3 = d.matchQuery "OPS()T1(R=N)X1(R=N)" 3 := by
  intro text marked other
  obtain ⟨hline, hgroup, htexts, hqueries⟩ := silence_written_either_way "" 3
  have hmarked : Database.Marked text marked :=
    @Database.Marked.line text marked ((lines text.toList).take 7) ((lines text.toList).drop 8)
      "WIN".toList [] [] (by decide) (by decide) (by decide +kernel) (by simp) (by simp)
      (by decide +kernel) (by decide +kernel)
  exact ⟨by decide +kernel, hline _ _ hmarked, htexts _ _ (by decide +kernel),
    fun d => hgroup d "OPS" "X1()", fun d => hqueries d _ _ (by decide +kernel)⟩

end OsDetection

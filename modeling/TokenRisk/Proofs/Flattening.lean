import Mathlib.Data.List.Forall2
import TokenRisk.Http.Explorer
import TokenRisk.Proofs.JsonPrinted
import TokenRisk.Proofs.LetterCase

/-!
# Sources of several files

An explorer sends the source of several files as the standard JSON of an object, in one more pair of
braces. Whatever form the JSON takes, the source is flattened to the files in their order, each
behind a line with its name, and nothing of their contents is lost: they stand in the text as they
are, and they stand in its lower-case form, in which keywords are searched, in theirs.

## Key results

- `Http.SourceText.flatten_of_isTextOf`: what is flattened from any form of the JSON.
- `Http.SourceText.exists_around`: where the content of a file stands in the text.
- `Http.SourceText.flattensLosslessly`: the two together, with what is printed and what is read.
-/

namespace TokenRisk.Http.SourceText

/-! ## Files -/

/-- A file by its name, behind a line with the name. -/
def sectionOf (file : String × String) : String :=
  "// File: " ++ file.1 ++ "\n" ++ file.2

/-- The `sectionOf` each file in order, with a blank line between them. -/
def textOf (files : List (String × String)) : String :=
  Text.join "\n\n" (files.map sectionOf)

/-- The value is an object with the content of the file. -/
def IsFile (entry : String × Json) (file : String × String) : Prop :=
  entry.1 = file.1 ∧ ∃ members, entry.2 = .object members ∧
    Json.lookup "content" members = some (.string file.2)

/-- The `sources` of an object are the files. -/
def Bears (members : List (String × Json)) (files : List (String × String)) : Prop :=
  ∃ entries, Json.lookup "sources" members = some (.object entries) ∧
    List.Forall₂ IsFile entries files

/-- The object that `Bears` the files and nothing else. -/
def sourcesOf (files : List (String × String)) : List (String × Json) :=
  [("sources", .object (files.map fun f => (f.1, .object [("content", .string f.2)])))]

/-! ## What is flattened -/

/-- `section?` of a file is its `sectionOf`. -/
private theorem section?_of_isFile {name : String} {value : Json} {file : String × String}
    (h : IsFile (name, value) file) : section? name value = .ok (sectionOf file) := by
  obtain ⟨rfl, members, rfl, hcontent⟩ := h
  simp only [section?, hcontent, Option.getD_some, Json.display, sectionOf]

/-- `sections` of files are the `sectionOf` each, in order. -/
private theorem sections_of_areFiles {entries : List (String × Json)}
    {files : List (String × String)} (h : List.Forall₂ IsFile entries files) :
    sections entries = .ok (files.map sectionOf) := by
  induction h with
  | nil => rfl
  | @cons entry file entries files hfile _ ih =>
    obtain ⟨name, value⟩ := entry
    rw [sections, section?_of_isFile hfile, ih]
    rfl

/-- `ofMembers` of an object that `Bears` files is their `textOf`. -/
private theorem ofMembers_of_bears {members : List (String × Json)}
    {files : List (String × String)} (h : Bears members files) :
    ofMembers members = .ok (textOf files) := by
  obtain ⟨entries, hsources, hfiles⟩ := h
  rw [ofMembers, hsources, Option.getD_some]
  simp only [sections_of_areFiles hfiles]
  rfl

/-- `inner` is what stands between the first and the last character. -/
private theorem inner_between (a b : Char) (l : List Char) : inner (a :: (l ++ [b])) = l := by
  rw [inner, List.tail_cons, List.dropLast_concat]

/-- `flatten` makes of the text of an object, in one more pair of braces, the `textOf` its files. -/
theorem flatten_of_isTextOf {members : List (String × Json)} {files : List (String × String)}
    {text : String} (hfiles : Bears members files)
    (htext : Json.IsTextOf (.object members) text.toList)
    (hbrace : Text.startsWith text "\x7b" = true) :
    flatten ("\x7b" ++ text ++ "\x7d") = .ok (textOf files) := by
  have hfirst : ∃ l, text.toList = '{' :: l := by
    rw [Text.startsWith, List.isPrefixOf_iff_prefix] at hbrace
    obtain ⟨l, hl⟩ := hbrace
    exact ⟨l, hl.symm⟩
  obtain ⟨l, hl⟩ := hfirst
  -- With the brace that the text starts with there are two, and what is inside is the text.
  have hsource : ("\x7b" ++ text ++ "\x7d").toList = '{' :: (text.toList ++ ['}']) := by
    rw [String.toList_append, String.toList_append]
    rfl
  have hread : Json.readAll (inner ('{' :: (text.toList ++ ['}']))) = .ok (.object members) := by
    rw [inner_between, Json.readAll_of_isTextOf htext]
  rw [hl, List.cons_append] at hsource hread
  simp only [flatten, hsource, hread]
  exact ofMembers_of_bears hfiles

/-- `flatten` leaves any other text as it is. -/
theorem flatten_eq_self {source : String} (h : Text.startsWith source "\x7b\x7b" = false) :
    flatten source = .ok source := by
  unfold flatten
  split
  next l hl =>
    have hstart : Text.startsWith source "\x7b\x7b" = true := by
      rw [Text.startsWith, hl, List.isPrefixOf_iff_prefix]
      exact ⟨l, rfl⟩
    rw [hstart] at h
    cases h
  next => rfl

/-- The source that `readSource` keeps of an answer is the flattened one. -/
private theorem readSource_of_flatten {source text : String} {entry : List (String × Json)}
    (others : List Json) (hsource : Json.field "SourceCode" entry = .string source)
    (hne : source ≠ "") (h : flatten source = .ok text) :
    ∃ record, Explorer.readSource (.array (.object entry :: others)) = .ok (some record) ∧
      record.code = text := by
  have htext : Explorer.readSourceText (.string source) = .ok text := by
    have htruthy : (Json.string source).isTruthy = true := by simpa [Json.isTruthy] using hne
    rw [Explorer.readSourceText, htruthy]
    exact h
  have htruthy : (Json.array (.object entry :: others)).isTruthy = true := rfl
  simp only [Explorer.readSource, htruthy, hsource, htext]
  exact ⟨_, rfl, rfl⟩

/-! ## Where the contents stand -/

/-- The `sectionOf` a file ends with its content, behind a line break. -/
private theorem toList_sectionOf (file : String × String) :
    (sectionOf file).toList = ("// File: " ++ file.1).toList ++ '\n' :: file.2.toList := by
  rw [sectionOf, String.toList_append, String.toList_append, List.append_assoc]
  rfl

/-- The `textOf` more than one file is the section of the first, a blank line and the text of the
others. -/
private theorem toList_textOf_cons (first second : String × String)
    (files : List (String × String)) : (textOf (first :: second :: files)).toList =
      (sectionOf first).toList ++ '\n' :: '\n' :: (textOf (second :: files)).toList := by
  rw [textOf, List.map_cons, List.map_cons, Text.join, String.intercalate_cons_cons,
    String.toList_append, String.toList_append, List.append_assoc]
  rfl

/-- The content of a file stands in the `textOf` the files behind the line with its name, and in
front of a line break unless it is the last. -/
theorem exists_around {files : List (String × String)} {file : String × String}
    (h : file ∈ files) : ∃ front rest, (textOf files).toList =
      front ++ '\n' :: (file.2.toList ++ rest) ∧ (rest = [] ∨ ∃ l, rest = '\n' :: l) := by
  induction files with
  | nil => cases h
  | cons first files ih =>
    -- The last file has no blank line behind it, any other has one.
    rcases files with _ | ⟨second, files⟩
    · obtain rfl := List.mem_singleton.mp h
      refine ⟨("// File: " ++ file.1).toList, [], ?_, .inl rfl⟩
      rw [textOf, List.map_singleton, Text.join, String.intercalate_singleton, toList_sectionOf,
        List.append_nil]
    · rw [toList_textOf_cons]
      rcases List.mem_cons.mp h with rfl | hlater
      · refine ⟨("// File: " ++ file.1).toList, '\n' :: '\n' :: (textOf (second :: files)).toList,
          ?_, .inr ⟨_, rfl⟩⟩
        rw [toList_sectionOf, List.append_assoc, List.cons_append]
      · -- A later file has the section of the first one before it.
        obtain ⟨front, rest, htext, hrest⟩ := ih hlater
        refine ⟨(sectionOf first).toList ++ '\n' :: '\n' :: front, rest, ?_, hrest⟩
        rw [htext, List.append_assoc, List.cons_append, List.cons_append]

/-- The content of a file is a part of the `textOf` the files, and its lower-case form one of that
of the text. -/
theorem isInfix_textOf {files : List (String × String)} {file : String × String}
    (h : file ∈ files) : file.2.toList <:+: (textOf files).toList ∧
      (Text.lower file.2).toList <:+: (Text.lower (textOf files)).toList := by
  obtain ⟨front, rest, htext, hrest⟩ := exists_around h
  constructor
  · exact ⟨front ++ ['\n'], rest, by simp [htext]⟩
  · -- Letters look at their neighbours for their lower case, but not across a line break.
    rw [Text.lower, Text.lower, String.toList_ofList, String.toList_ofList, htext,
      Text.lowerAfter_append_lineBreak]
    rcases hrest with rfl | ⟨l, rfl⟩
    · exact ⟨Text.lowerAfter false front ++ ['\n'], [], by simp⟩
    · rw [Text.lowerAfter_append_lineBreak]
      exact ⟨Text.lowerAfter false front ++ ['\n'], '\n' :: Text.lowerAfter false l, by simp⟩

/-! ## The files come through -/

/-- Files with different names are the sources of `sourcesOf`, and what `render` prints for it
writes it. -/
private theorem writes_sourcesOf {files : List (String × String)}
    (hnames : (files.map (·.1)).Nodup) {style : Json.Style} (hstyle : style.IsStandard) :
    Bears (sourcesOf files) files ∧
      Json.Writes (.object (sourcesOf files))
        (Json.render style 0 (.object (sourcesOf files))).toList := by
  have hcontent (file : String × String) (depth : Nat) :
      Json.Writes (.object [("content", .string file.2)])
        (Json.render style depth (.object [("content", .string file.2)])).toList := by
    refine Json.writes_render_object hstyle depth (by simp) fun m hm => ?_
    obtain rfl := List.mem_singleton.mp hm
    rw [Json.render]
    exact Json.writes_stringLiteral file.2
  -- Borne are the entries as they were put in.
  constructor
  · refine ⟨_, rfl, List.forall₂_map_left_iff.mpr (List.forall₂_same.mpr fun file _ => ?_)⟩
    exact ⟨rfl, _, rfl, rfl⟩
  · -- The object has two levels above the objects of the files.
    refine Json.writes_render_object hstyle 0 (by simp [sourcesOf]) fun m hm => ?_
    obtain rfl := List.mem_singleton.mp hm
    refine Json.writes_render_object hstyle 1 ?_ fun m hm => ?_
    · rw [List.map_map]
      exact hnames
    · obtain ⟨file, -, rfl⟩ := List.mem_map.mp hm
      exact hcontent file 2

/-- What becomes of the source of several files. -/
structure FlattensLosslessly (files : List (String × String)) : Prop where
  /-- Any form of the JSON of an object with the files, in one more pair of braces, is flattened to
  the files in order. -/
  flattened : ∀ members text, Bears members files → Json.IsTextOf (.object members) text.toList →
    Text.startsWith text "\x7b" = true → flatten ("\x7b" ++ text ++ "\x7d") = .ok (textOf files)
  /-- Files with different names have such a form in each of the three styles. -/
  printed : (files.map (·.1)).Nodup → ∀ style ∈ [Json.Style.compact, .spaced, .indented],
    flatten ("\x7b" ++ Json.render style 0 (.object (sourcesOf files)) ++ "\x7d") =
      .ok (textOf files)
  /-- The source that is kept of an answer is the flattened one. -/
  answered : ∀ members text entry others, Bears members files →
    Json.IsTextOf (.object members) text.toList → Text.startsWith text "\x7b" = true →
    Json.field "SourceCode" entry = .string ("\x7b" ++ text ++ "\x7d") →
      ∃ record, Explorer.readSource (.array (.object entry :: others)) = .ok (some record) ∧
        record.code = textOf files
  /-- The content of each file is a part of the text, and of its lower-case form in lower case. -/
  contained : ∀ file ∈ files, file.2.toList <:+: (textOf files).toList ∧
    (Text.lower file.2).toList <:+: (Text.lower (textOf files)).toList
  /-- Any other text is left as it is. -/
  untouched : ∀ source, Text.startsWith source "\x7b\x7b" = false → flatten source = .ok source

/-- The source of several files `FlattensLosslessly`. -/
theorem flattensLosslessly (files : List (String × String)) : FlattensLosslessly files where
  flattened _ _ hfiles htext hbrace := flatten_of_isTextOf hfiles htext hbrace
  printed hnames style hstyle := by
    -- Whatever style the files are printed in, what is printed writes their object.
    obtain ⟨hfiles, hwrites⟩ := writes_sourcesOf hnames (Json.isStandard_styles style hstyle)
    refine flatten_of_isTextOf hfiles ⟨[], _, [], rfl, rfl, hwrites, by simp⟩ ?_
    obtain ⟨l, hl⟩ := hwrites.object_eq_cons
    rw [Text.startsWith, hl, List.isPrefixOf_iff_prefix]
    exact ⟨l, rfl⟩
  answered members text entry others hfiles htext hbrace hsource := by
    -- The text is not empty, so its record is not passed over.
    refine readSource_of_flatten others hsource ?_ (flatten_of_isTextOf hfiles htext hbrace)
    intro hempty
    have hlist := congrArg String.toList hempty
    simp at hlist
  contained _ hfile := isInfix_textOf hfile
  untouched _ h := flatten_eq_self h

/-- Two files whose names and contents take every kind of escape. -/
def escapedFiles : List (String × String) :=
  [("a\"b\\c.sol", "contract A \x7b\n\x7d\n"), ("é/😀.sol", "\x7d\x7d\t\"")]

/-- `escapedFiles` are flattened from what `render` prints for them. -/
theorem escaped_files_are_flattened :
    flatten ("\x7b" ++ Json.render .spaced 0 (.object (sourcesOf escapedFiles)) ++ "\x7d") =
      .ok ("// File: a\"b\\c.sol\ncontract A \x7b\n\x7d\n\n\n" ++
        "// File: é/😀.sol\n\x7d\x7d\t\"") := by
  have htext : textOf escapedFiles = "// File: a\"b\\c.sol\ncontract A \x7b\n\x7d\n\n\n" ++
      "// File: é/😀.sol\n\x7d\x7d\t\"" := by decide +kernel
  rw [← htext]
  exact (flattensLosslessly escapedFiles).printed (by decide) .spaced (by simp)

end TokenRisk.Http.SourceText

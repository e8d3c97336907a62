import BehaviorPlan.Proofs.Code.Scanning
import BehaviorPlan.Proofs.Startup.Lines

/-! # Lines that declare nothing

A generated line is mute if a scan finds no declaration in it, however it is indented. Lines with
names in them are mute by their fixed pieces, even if a name brings in a line feed. Mute lines,
empty lines and braces can be written anywhere, and where the braces match they can stand in the
body of a method. -/
namespace BehaviorPlan.Startup

open Code (Scans Paired Filled isMuteFrame isHeadChar isSpaceOrTab isIdle)

section Line

def Braceless (cs : List Char) : Prop :=
  '\x7b' ∉ cs ∧ '\x7d' ∉ cs

instance (cs : List Char) : Decidable (Braceless cs) :=
  inferInstanceAs (Decidable (_ ∧ _))

theorem Braceless.append {xs ys : List Char} (hx : Braceless xs) (hy : Braceless ys) :
    Braceless (xs ++ ys) := by
  simp only [Braceless, List.mem_append, not_or]
  exact ⟨⟨hx.1, hy.1⟩, hx.2, hy.2⟩

/-- A line without braces in which a scan finds no declaration. -/
structure Mute (text : String) : Prop where
  scans : ∀ lead : List Char, lead.all isSpaceOrTab = true →
    Scans (lead ++ text.toList ++ ['\n']) []
  braceless : Braceless text.toList
  solid : isSolid text.toList = true

/-- A line that can stand anywhere. -/
inductive Tame : String → Prop
  | empty : Tame ""
  | brace (opening : Bool) : Tame (if opening then openBrace else closeBrace)
  | mute {text : String} (h : Mute text) : Tame text

theorem trimmed_of_isSolid {text : String} (front : String) (h : isSolid text.toList = true) :
    Text.withoutTrailingBlanks (front ++ text) = front ++ text := by
  rw [Text.withoutTrailingBlanks, String.toList_append, trimEnd_append_of_isSolid h,
    ← String.toList_append, String.ofList_toList]

theorem Tame.trim {text : String} (h : Tame text) : Tame (Text.withoutTrailingBlanks text) := by
  have htrimmed : Text.withoutTrailingBlanks text = text := by
    cases h with
    | empty => decide
    | brace opening => cases opening <;> decide
    | mute hmute => simpa using trimmed_of_isSolid "" hmute.solid
  rwa [htrimmed]

theorem Mute.trim {text : String} (h : Mute text) : Tame (Text.withoutTrailingBlanks text) :=
  (Tame.mute h).trim

/-- A mute line may be indented. -/
theorem Mute.indented {text : String} (h : Mute text) : Mute (indent ++ text) where
  scans lead hlead := by
    have hindent : indent.toList.all isSpaceOrTab = true := by decide
    have hall : (lead ++ indent.toList).all isSpaceOrTab = true := by
      rw [List.all_append, hlead, hindent]
      rfl
    rw [String.toList_append, ← List.append_assoc]
    exact h.scans _ hall
  braceless := by
    rw [String.toList_append]
    exact Braceless.append (by decide) h.braceless
  solid := by
    rw [String.toList_append]
    exact isSolid_append h.solid

/-- A line without line feeds is mute if it starts with something that no declaration starts
with. -/
theorem mute_of_idle {text : String} {start rest : List Char} (htext : text.toList = start ++ rest)
    (hidle : isIdle start = true) (hn : '\n' ∉ text.toList) (hbraceless : Braceless text.toList)
    (hsolid : isSolid text.toList = true) : Mute text where
  scans lead hlead := by
    have hline : '\n' ∉ lead ++ text.toList := by
      simp [Code.newline_not_mem_of_all hlead, hn]
    refine Code.scans_line hline fun after => ?_
    rw [htext, ← List.append_assoc, List.append_assoc]
    exact Code.declarationAt?_of_isIdle (Code.isIdle_append_of_all hlead hidle)
  braceless := hbraceless
  solid := hsolid

theorem scans_empty {lead : List Char} (hlead : lead.all isSpaceOrTab = true) :
    Scans (lead ++ ['\n']) [] := by
  refine Code.scans_line (Code.newline_not_mem_of_all hlead) fun after => ?_
  have hidle : isIdle ['\n'] = true := by decide
  have hsplit : lead ++ '\n' :: after = (lead ++ ['\n']) ++ after := by simp
  rw [hsplit]
  exact Code.declarationAt?_of_isIdle (Code.isIdle_append_of_all hlead hidle)

theorem Tame.scans {text : String} (h : Tame text) {lead : List Char}
    (hlead : lead.all isSpaceOrTab = true) : Scans (lead ++ text.toList ++ ['\n']) [] := by
  cases h with
  | empty => simpa using scans_empty hlead
  | brace opening =>
    have hmute : isMuteFrame [(if opening then openBrace else closeBrace).toList] = true := by
      cases opening <;> decide
    exact (Filled.last _).scans hmute hlead
  | mute hmute => exact hmute.scans lead hlead

end Line

/-! The fixed pieces of a line are given by their characters, which a literal is unfolded to. -/
section Frames

variable {before between after : List Char} {name first second : String}

def isMuteLine (pieces : List (List Char)) : Bool :=
  isMuteFrame pieces && pieces.all (fun piece => decide (Braceless piece)) &&
    pieces.getLast?.any isSolid

theorem not_mem_of_filled {pieces : List (List Char)} {text : List Char} (h : Filled pieces text)
    {c : Char} (hc : isHeadChar c = false) (hpieces : ∀ piece ∈ pieces, c ∉ piece) : c ∉ text := by
  induction h with
  | last piece => exact hpieces piece (List.mem_singleton_self _)
  | hole piece hhole _ ih =>
    obtain ⟨hpiece, hrest⟩ := List.forall_mem_cons.mp hpieces
    have hnot := ih hrest
    simp only [List.mem_append, not_or]
    refine ⟨hpiece, fun hm => ?_, hnot⟩
    exact absurd (hc.symm.trans (List.all_eq_true.mp hhole c hm)) nofun

theorem exists_front_of_filled {pieces : List (List Char)} {text : List Char}
    (h : Filled pieces text) : ∃ front piece, pieces.getLast? = some piece ∧
      text = front ++ piece := by
  induction h with
  | last piece => exact ⟨[], piece, rfl, rfl⟩
  | hole piece _ h ih =>
    obtain ⟨front, last, hlast, rfl⟩ := ih
    refine ⟨_, last, ?_, by rw [← List.append_assoc, ← List.append_assoc]⟩
    rw [List.getLast?_cons, hlast, Option.getD_some]

theorem mute_of_filled {pieces : List (List Char)} {text : String} (h : Filled pieces text.toList)
    (hframe : isMuteLine pieces = true) : Mute text := by
  simp only [isMuteLine, Bool.and_eq_true, List.all_eq_true, decide_eq_true_eq] at hframe
  obtain ⟨⟨hmute, hbraceless⟩, hsolid⟩ := hframe
  have hopen : isHeadChar '\x7b' = false := by decide
  have hclose : isHeadChar '\x7d' = false := by decide
  refine ⟨fun lead hlead => h.scans hmute hlead, ⟨?_, ?_⟩, ?_⟩
  · exact not_mem_of_filled h hopen fun piece hpiece => (hbraceless piece hpiece).1
  · exact not_mem_of_filled h hclose fun piece hpiece => (hbraceless piece hpiece).2
  · obtain ⟨front, piece, hlast, htext⟩ := exists_front_of_filled h
    rw [hlast] at hsolid
    rw [htext]
    exact isSolid_append hsolid

theorem mute_fixed {text : List Char} (h : isMuteLine [text] = true) :
    Mute (String.ofList text) := by
  refine mute_of_filled ?_ h
  rw [String.toList_ofList]
  exact .last _

theorem Tame.fixed {text : List Char} (h : isMuteLine [text] = true) :
    Tame (String.ofList text) :=
  .mute (mute_fixed h)

theorem mute_around (hname : name.toList.all isHeadChar = true)
    (h : isMuteLine [before, after] = true) :
    Mute (String.ofList before ++ name ++ String.ofList after) := by
  refine mute_of_filled ?_ h
  simp only [String.append_assoc, String.toList_append, String.toList_ofList]
  exact .hole _ hname (.last _)

theorem mute_two (hfirst : first.toList.all isHeadChar = true)
    (hsecond : second.toList.all isHeadChar = true)
    (h : isMuteLine [before, between, after] = true) :
    Mute (String.ofList before ++ first ++ String.ofList between ++ second ++
      String.ofList after) := by
  refine mute_of_filled ?_ h
  simp only [String.append_assoc, String.toList_append, String.toList_ofList]
  exact .hole _ hfirst (.hole _ hsecond (.last _))

theorem mute_logged {text : List Char} (hname : name.toList.all isHeadChar = true)
    (h : isMuteLine [before ++ ['"', '['], ']' :: ' ' :: (text ++ '"' :: after)] = true) :
    Mute (String.ofList before ++ logged name (String.ofList text) ++ String.ofList after) := by
  refine mute_of_filled ?_ h
  have htext : (String.ofList before ++ logged name (String.ofList text) ++
      String.ofList after).toList =
      (before ++ ['"', '[']) ++ (name.toList ++ (']' :: ' ' :: (text ++ '"' :: after))) := by
    simp [logged, toString]
  rw [htext]
  exact .hole _ hname (.last _)

theorem mute_logged_around {opening closing : List Char}
    (hname : name.toList.all isHeadChar = true) (hsecond : second.toList.all isHeadChar = true)
    (h : isMuteLine [before ++ ['"', '['], ']' :: ' ' :: opening, closing ++ '"' :: after] = true) :
    Mute (String.ofList before ++
      logged name (String.ofList opening ++ second ++ String.ofList closing) ++
        String.ofList after) := by
  refine mute_of_filled ?_ h
  have htext : (String.ofList before ++
      logged name (String.ofList opening ++ second ++ String.ofList closing) ++
        String.ofList after).toList =
      (before ++ ['"', '[']) ++ (name.toList ++ ((']' :: ' ' :: opening) ++
        (second.toList ++ (closing ++ '"' :: after)))) := by
    simp [logged, toString]
  rw [htext]
  exact .hole _ hname (.hole _ hsecond (.last _))

end Frames

section Numerals

variable {before after : List Char} {numeral : String}

theorem braceless_numeral (h : Numeral.Numeric numeral.toList) : Braceless numeral.toList :=
  ⟨h.not_mem (by decide), h.not_mem (by decide)⟩

def isNumeralFrame (before after : List Char) : Bool :=
  !(before ++ after).contains '\n' && decide (Braceless before) && decide (Braceless after) &&
    isSolid after

theorem mute_of_isNumeralFrame (hnumeral : Numeral.Numeric numeral.toList)
    (h : isNumeralFrame before after = true) {start rest : List Char}
    (htext : before ++ numeral.toList ++ after = start ++ rest) (hidle : isIdle start = true) :
    Mute (String.ofList before ++ numeral ++ String.ofList after) := by
  simp only [isNumeralFrame, Bool.and_eq_true, decide_eq_true_eq] at h
  obtain ⟨⟨⟨hn, hbefore⟩, hafter⟩, hsolid⟩ := h
  have hnewline : '\n' ∉ numeral.toList := hnumeral.not_mem (by decide)
  have hline : (String.ofList before ++ numeral ++ String.ofList after).toList =
      before ++ numeral.toList ++ after := by
    simp
  refine mute_of_idle (hline.trans htext) hidle ?_ ?_ ?_
  · rw [hline]
    simp only [Bool.not_eq_true', List.contains_iff_mem, ← Bool.not_eq_true, List.mem_append,
      not_or] at hn ⊢
    exact ⟨⟨hn.1, hnewline⟩, hn.2⟩
  · rw [hline]
    exact (hbefore.append (braceless_numeral hnumeral)).append hafter
  · rw [hline]
    exact isSolid_append hsolid

theorem mute_numeral (hnumeral : Numeral.Numeric numeral.toList)
    (h : (isNumeralFrame before after && isIdle before) = true) :
    Mute (String.ofList before ++ numeral ++ String.ofList after) := by
  obtain ⟨hframe, hidle⟩ := (Bool.and_eq_true _ _).mp h
  exact mute_of_isNumeralFrame hnumeral hframe (List.append_assoc ..) hidle

theorem isParameterChar_of_isNumeralChar {c : Char} (h : Numeral.isNumeralChar c = true) :
    Code.isParameterChar c = true := by
  by_contra hnot
  simp only [Code.isParameterChar, Bool.not_eq_true, Bool.and_eq_false_iff, bne_eq_false_iff_eq]
    at hnot
  rcases hnot with ((rfl | rfl) | rfl) | rfl <;> revert h <;> decide

def isCallHead (before : List Char) : Bool :=
  before.getLast? == some '(' && before.dropLast.all isHeadChar

theorem mute_call (hnumeral : Numeral.Numeric numeral.toList)
    (h : (isNumeralFrame before [')', ';'] && isCallHead before) = true) :
    Mute (String.ofList before ++ numeral ++ ");") := by
  simp only [isCallHead, Bool.and_eq_true, beq_iff_eq] at h
  obtain ⟨hframe, hparen, hfunction⟩ := h
  have hparams : (numeral.toList ++ [')']).all Code.isParameterChar = true := by
    rw [List.all_append, List.all_eq_true.mpr fun c hc =>
      isParameterChar_of_isNumeralChar (hnumeral c hc)]
    rfl
  have hidle : isIdle (before.dropLast ++ '(' :: ((numeral.toList ++ [')']) ++ [';'])) = true := by
    rw [isIdle, Code.isStopped_call hfunction hparams, Bool.or_true]
  have hbefore : before.dropLast ++ ['('] = before := List.dropLast_append_getLast? _ hparen
  have htext : before ++ numeral.toList ++ [')', ';'] =
      (before.dropLast ++ '(' :: ((numeral.toList ++ [')']) ++ [';'])) ++ [] := by
    nth_rewrite 1 [← hbefore]
    simp
  exact mute_of_isNumeralFrame hnumeral hframe htext hidle

end Numerals

section Comments

theorem trimEnd_newline (cs : List Char) : Text.trimEnd (cs ++ ['\n']) = Text.trimEnd cs := by
  have hblank : Text.isBlank '\n' = true := by decide
  simp [Text.trimEnd, hblank]

theorem isSolid_of_isStrict {name : String} (h : Name.isStrict name = true) :
    isSolid name.toList = true := by
  have hwords := Name.all_isIdentRest_of_isStrict h
  cases hlast : name.toList.getLast? with
  | none =>
    rw [List.getLast?_eq_none_iff] at hlast
    simp [Name.isStrict, Name.isStrictText, hlast] at h
  | some c =>
    have hc := List.all_eq_true.mp hwords c (List.mem_of_getLast? hlast)
    simp [isSolid, hlast, Code.isBlank_of_isIdentRest hc]

/-- A comment that ends in a name loses the line feed of the name with its trailing blanks. -/
theorem tame_comment {front name : String} (hname : Name.isIdentifier name = true)
    (hfront : "//".toList <+: front.toList) (hn : '\n' ∉ front.toList)
    (hbraceless : Braceless front.toList) :
    Tame (Text.withoutTrailingBlanks (front ++ name)) := by
  obtain ⟨stem, hstem, hcases⟩ := Name.exists_strict_of_isIdentifier hname
  have hsolid := isSolid_of_isStrict hstem
  have hwords := Name.all_isIdentRest_of_isStrict hstem
  have htrim : Text.withoutTrailingBlanks (front ++ name) = front ++ stem := by
    rw [← trimmed_of_isSolid front hsolid]
    rcases hcases with rfl | rfl
    · rfl
    · have hnewline : "\n".toList = ['\n'] := rfl
      simp only [Text.withoutTrailingBlanks, String.toList_append, hnewline, ← List.append_assoc,
        trimEnd_newline]
  obtain ⟨rest, hrest⟩ := hfront
  have hidle : isIdle "//".toList = true := by decide
  have htext : (front ++ stem).toList = "//".toList ++ (rest ++ stem.toList) := by
    rw [String.toList_append, ← hrest, List.append_assoc]
  rw [htrim]
  refine .mute (mute_of_idle htext hidle ?_ ?_ ?_)
  · rw [String.toList_append, List.mem_append, not_or]
    exact ⟨hn, Code.not_mem_of_all hwords (by decide)⟩
  · rw [String.toList_append]
    exact hbraceless.append ⟨Code.not_mem_of_all hwords (by decide),
      Code.not_mem_of_all hwords (by decide)⟩
  · rw [String.toList_append]
    exact isSolid_append hsolid

end Comments

section Written

variable {base : String}

def leadOf (base : String) (depth : Nat) : String :=
  base ++ indentation depth

theorem all_isSpaceOrTab_leadOf (hbase : base.toList.all isSpaceOrTab = true) (depth : Nat) :
    (leadOf base depth).toList.all isSpaceOrTab = true := by
  rw [leadOf, String.toList_append, List.all_append, hbase, all_isSpaceOrTab_indentation]
  rfl

theorem toList_render {l : CodeLine} (h : l.text ≠ "") :
    (l.render base).toList = (leadOf base l.depth).toList ++ l.text.toList := by
  rw [CodeLine.render, if_neg h, leadOf, String.toList_append]

theorem toList_render_openBrace {l : CodeLine} (h : l.text = openBrace) :
    (l.render base).toList = (leadOf base l.depth).toList ++ ['\x7b'] := by
  rw [toList_render (by rw [h]; decide), h]
  rfl

theorem toList_render_closeBrace {l : CodeLine} (h : l.text = closeBrace) :
    (l.render base).toList = (leadOf base l.depth).toList ++ ['\x7d'] := by
  rw [toList_render (by rw [h]; decide), h]
  rfl

theorem scans_render (hbase : base.toList.all isSpaceOrTab = true) {l : CodeLine}
    (h : Tame l.text) : Scans ((l.render base).toList ++ ['\n']) [] := by
  by_cases htext : l.text = ""
  · simpa [CodeLine.render, htext] using scans_empty (rfl : [].all isSpaceOrTab = true)
  · rw [toList_render htext]
    exact h.scans (all_isSpaceOrTab_leadOf hbase l.depth)

theorem scans_written_of_forall {lines : List String}
    (h : ∀ text ∈ lines, Scans (text.toList ++ ['\n']) []) : Scans (written lines) [] := by
  induction lines with
  | nil => exact Code.scans_nil
  | cons text lines ih =>
    obtain ⟨htext, hlines⟩ := List.forall_mem_cons.mp h
    rw [written_cons]
    exact htext.append (ih hlines)

/-- Nothing is declared in tame lines. -/
theorem scans_written (hbase : base.toList.all isSpaceOrTab = true) {lines : List CodeLine}
    (h : ∀ l ∈ lines, Tame l.text) : Scans (written (lines.map (·.render base))) [] := by
  refine scans_written_of_forall fun text htext => ?_
  obtain ⟨l, hl, rfl⟩ := List.mem_map.mp htext
  exact scans_render hbase (h l hl)

theorem paired_of_all {lead : List Char} (h : lead.all isSpaceOrTab = true) : Paired lead :=
  Code.paired_of_not_mem (Code.not_mem_of_all h (by decide)) (Code.not_mem_of_all h (by decide))

theorem paired_newline : Paired ['\n'] :=
  Code.paired_of_not_mem (by decide) (by decide)

theorem paired_render (hbase : base.toList.all isSpaceOrTab = true) {l : CodeLine}
    (h : Braceless l.text.toList) : Paired ((l.render base).toList ++ ['\n']) := by
  by_cases htext : l.text = ""
  · simpa [CodeLine.render, htext] using paired_newline
  · rw [toList_render htext]
    exact ((paired_of_all (all_isSpaceOrTab_leadOf hbase l.depth)).append
      (Code.paired_of_not_mem h.1 h.2)).append paired_newline

theorem not_neutral_brace (opening : Bool) :
    ¬ Neutral (if opening then openBrace else closeBrace) := by
  intro h
  have hzero := (h [] Code.quiet_nil).1
  have hweighs := Code.weighs_brace Code.quiet_nil opening
  cases opening
  · exact absurd (hzero.unique hweighs) (by decide)
  · exact absurd (hzero.unique hweighs) (by decide)

theorem Tame.braceless {text : String} (h : Tame text) (hneutral : Neutral text) :
    Braceless text.toList := by
  cases h with
  | empty => decide
  | brace opening => exact absurd hneutral (not_neutral_brace opening)
  | mute hmute => exact hmute.braceless

theorem paired_written (hbase : base.toList.all isSpaceOrTab = true) {lines : List CodeLine}
    (h : Balanced (lines.map (·.text))) (htame : ∀ l ∈ lines, Tame l.text) :
    Paired (written (lines.map (·.render base))) := by
  generalize htexts : lines.map (·.text) = texts at h
  induction h generalizing lines with
  | nil =>
    obtain rfl := List.map_eq_nil_iff.mp htexts
    exact Code.paired_nil
  | line htext _ ih =>
    obtain ⟨l, rest, rfl, rfl, hrest⟩ := List.map_eq_cons_iff.mp htexts
    obtain ⟨hl, hlines⟩ := List.forall_mem_cons.mp htame
    rw [List.map_cons, written_cons]
    exact (paired_render hbase (hl.braceless htext)).append (ih hlines hrest)
  | block inner _ _ hinner hlines =>
    -- The lines are those of the block: its braces, what is between them, and what follows.
    obtain ⟨first, rest, rfl, hfirst, hrest⟩ := List.map_eq_cons_iff.mp htexts
    obtain ⟨body, rest, rfl, hbody, hrest⟩ := List.map_eq_append_iff.mp hrest
    obtain ⟨last, rest, rfl, hlast, hrest⟩ := List.map_eq_cons_iff.mp hrest
    simp only [List.forall_mem_cons, List.forall_mem_append] at htame
    obtain ⟨-, hbodyTame, -, hrestTame⟩ := htame
    have hopen : (first.render base).toList = (leadOf base first.depth).toList ++ ['\x7b'] :=
      toList_render_openBrace hfirst
    have hclose : (last.render base).toList = (leadOf base last.depth).toList ++ ['\x7d'] :=
      toList_render_closeBrace hlast
    have hpaired := (paired_of_all (all_isSpaceOrTab_leadOf hbase first.depth)).append <|
      ((paired_newline.append (hinner hbodyTame hbody)).append
        (paired_of_all (all_isSpaceOrTab_leadOf hbase last.depth))).enclose.append <|
      paired_newline.append (hlines hrestTame hrest)
    simpa only [List.map_cons, List.map_append, written_cons, written_append, hopen, hclose,
      List.append_assoc, List.cons_append, List.nil_append] using hpaired

end Written

section Methods

variable {base : String}

/-- A method as a scan finds it: its body reaches from brace to brace. -/
def asScanned (base : String) (m : Method) : Method :=
  { m with body := "\n" ++ m.body ++ "\n" ++ leadOf base 1 }

theorem toList_body {m : MethodBlock} (hne : m.body ≠ []) :
    ("\n" ++ (m.method base).body ++ "\n" ++ leadOf base 1).toList =
      ['\n'] ++ written (m.bodyLines.map (·.render base)) ++ (leadOf base 1).toList := by
  have hlines : m.bodyLines.map (·.render base) ≠ [] := by simpa [MethodBlock.bodyLines] using hne
  rw [← toList_unlines hlines]
  simp [MethodBlock.method, Text.unlines]

/-- What stands between the braces of a method, with the line feed after the first brace and the
blanks before the last one. -/
def bodyOf (base : String) (m : MethodBlock) : List Char :=
  ['\n'] ++ written (m.bodyLines.map (·.render base)) ++ (leadOf base 1).toList

theorem asScanned_method {m : MethodBlock} (hne : m.body ≠ []) :
    asScanned base (m.method base) =
      ⟨m.name, m.declaration, String.ofList (bodyOf base m)⟩ := by
  rw [bodyOf, ← toList_body hne, String.ofList_toList]
  rfl

def bracedLines (m : MethodBlock) : List CodeLine :=
  [⟨1, openBrace⟩] ++ m.bodyLines ++ [⟨1, closeBrace⟩]

theorem written_bracedLines (m : MethodBlock) :
    written ((bracedLines m).map (·.render base)) =
      (leadOf base 1).toList ++ '\x7b' :: (bodyOf base m ++ '\x7d' :: ['\n']) := by
  have hopen : ((⟨1, openBrace⟩ : CodeLine).render base).toList =
      (leadOf base 1).toList ++ ['\x7b'] := toList_render_openBrace rfl
  have hclose : ((⟨1, closeBrace⟩ : CodeLine).render base).toList =
      (leadOf base 1).toList ++ ['\x7d'] := toList_render_closeBrace rfl
  simp only [bracedLines, List.map_append, List.map_cons, List.map_nil, written_append,
    written_cons, hopen, hclose]
  simp [bodyOf, written]

theorem written_methodLines {m : MethodBlock} (h : m.declaration ≠ "") :
    written (m.lines.map (·.render base)) = (leadOf base 1).toList ++ (m.declaration.toList ++
      '\n' :: ((leadOf base 1).toList ++ '\x7b' :: (bodyOf base m ++ '\x7d' :: ['\n']))) := by
  have hlines : m.lines = ⟨1, m.declaration⟩ :: bracedLines m := rfl
  have hdeclared : ((⟨1, m.declaration⟩ : CodeLine).render base).toList =
      (leadOf base 1).toList ++ m.declaration.toList := toList_render h
  rw [hlines, List.map_cons, written_cons, written_bracedLines, hdeclared]
  simp

theorem tame_bodyLines {m : MethodBlock}
    (h : ∀ text ∈ m.body, Tame (Text.withoutTrailingBlanks text)) :
    ∀ l ∈ m.bodyLines, Tame l.text := by
  intro l hl
  obtain ⟨text, htext, rfl⟩ := List.mem_map.mp hl
  exact h text htext

theorem paired_bodyOf (hbase : base.toList.all isSpaceOrTab = true) {m : MethodBlock}
    (hbody : Balanced m.body) (htame : ∀ l ∈ m.bodyLines, Tame l.text) :
    Paired (bodyOf base m) := by
  have htexts : Balanced (m.bodyLines.map (·.text)) := by
    simpa [MethodBlock.bodyLines, Function.comp_def] using hbody.trim
  exact (paired_newline.append (paired_written hbase htexts htame)).append
    (paired_of_all (all_isSpaceOrTab_leadOf hbase 1))

theorem scans_bracedLines (hbase : base.toList.all isSpaceOrTab = true) {m : MethodBlock}
    (htame : ∀ l ∈ m.bodyLines, Tame l.text) :
    Scans ((leadOf base 1).toList ++ '\x7b' :: (bodyOf base m ++ '\x7d' :: ['\n'])) [] := by
  have hlines : ∀ l ∈ bracedLines m, Tame l.text := by
    simp only [bracedLines, List.forall_mem_append, List.forall_mem_singleton]
    exact ⟨⟨.brace true, htame⟩, .brace false⟩
  rw [← written_bracedLines]
  exact scans_written hbase hlines

theorem scans_method (hbase : base.toList.all isSpaceOrTab = true) {m : MethodBlock}
    {type params : String} (hread : Code.isReadable type m.name params = true)
    (hdeclaration : m.declaration = Code.publicMethod type m.name params)
    (hbody : Balanced m.body) (htame : ∀ text ∈ m.body, Tame (Text.withoutTrailingBlanks text))
    (hne : m.body ≠ []) :
    Scans (written (m.lines.map (·.render base))) [asScanned base (m.method base)] := by
  have hlead := all_isSpaceOrTab_leadOf hbase 1
  have hlines := tame_bodyLines htame
  have hdeclared : m.declaration ≠ "" := by
    simp [hdeclaration, Code.publicMethod]
  rw [written_methodLines hdeclared, asScanned_method hne, hdeclaration]
  exact Code.scans_publicMethod hread hlead (Code.not_mem_of_all hlead (by decide))
    (paired_bodyOf hbase hbody hlines) (scans_bracedLines hbase hlines)

end Methods

end BehaviorPlan.Startup

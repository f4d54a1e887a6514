import Mathlib.Data.List.TakeWhile
import TaModel.Library.PercentEncoding

/-!
# `file:` URIs

Absolute POSIX paths as lists of components, their `file:` URI and the way back: `urlparse`,
percent-decoding, and the resolution of `.` and `..`. There are no symbolic links, so resolution is
lexical. `resolvePath_fileUri` is the round trip.
-/

set_option autoImplicit false

namespace TaModel.Library

open PercentEncoding

/-- A byte string that can name a file: no separator, and none of `.` and `..`. -/
structure IsComponent (c : List UInt8) : Prop where
  ne_nil : c ≠ []
  no_separator : 47 ∉ c
  ne_dot : c ≠ [46]
  ne_dotdot : c ≠ [46, 46]

/-- `str(path)` of an absolute path below the root directory. -/
def posixText (path : List (List UInt8)) : List UInt8 := List.intercalate [47] ([] :: path)

/-- `path.as_uri()`. -/
def fileUri (path : List (List UInt8)) : List Char :=
  ['f', 'i', 'l', 'e', ':', '/', '/'] ++ quote (posixText path)

/-! ## Parsing -/

def isSchemeChar (c : Char) : Bool := c.isAlphanum || c == '+' || c == '-' || c == '.'

def isSchemeName : List Char → Bool
  | [] => false
  | c :: rest => c.isAlpha && rest.all isSchemeChar

/-- What follows the authority. -/
def afterAuthority : List Char → List Char
  | '/' :: '/' :: rest => rest.dropWhile fun c => !(c == '/' || c == '?' || c == '#')
  | rest => rest

/-- The scheme and the path of `urlparse(uri)`. -/
def urlparse (uri : List Char) : List Char × List Char :=
  let url := (uri.dropWhile fun c => decide (c.toNat ≤ 32)).filter fun c =>
    !(c == '\t' || c == '\r' || c == '\n')
  let name := url.takeWhile fun c => c != ':'
  let hasScheme := decide (name.length < url.length) && isSchemeName name
  let rest := afterAuthority (if hasScheme then url.drop (name.length + 1) else url)
  (if hasScheme then name.map Char.toLower else [],
    (rest.takeWhile fun c => c != '#').takeWhile fun c => c != '?')

/-- One component of a path that is being resolved. -/
def resolveComponent (path : List (List UInt8)) (c : List UInt8) : List (List UInt8) :=
  if c = [] ∨ c = [46] then path
  else if c = [46, 46] then path.dropLast
  else path ++ [c]

/-- `Path(text).resolve()`; a relative path starts at the working directory. -/
def resolvePath (workingDirectory : List (List UInt8)) (text : List UInt8) : List (List UInt8) :=
  (text.splitOn 47).foldl resolveComponent
    (if text.head? = some 47 then [] else workingDirectory)

/-! ## The round trip -/

theorem posixText_cons (c : List UInt8) (path : List (List UInt8)) :
    ∃ rest, posixText (c :: path) = 47 :: rest := by
  exact ⟨_, rfl⟩

theorem resolveComponent_of_isComponent {c : List UInt8} (h : IsComponent c)
    (path : List (List UInt8)) : resolveComponent path c = path ++ [c] := by
  simp [resolveComponent, h.ne_nil, h.ne_dot, h.ne_dotdot]

theorem foldl_resolveComponent {path : List (List UInt8)} (h : ∀ c ∈ path, IsComponent c)
    (start : List (List UInt8)) : path.foldl resolveComponent start = start ++ path := by
  induction path generalizing start with
  | nil => simp
  | cons c path ih =>
      rw [List.foldl_cons, resolveComponent_of_isComponent (h c List.mem_cons_self),
        ih fun d hd => h d (List.mem_cons_of_mem c hd)]
      simp

/-- The text of an absolute path resolves to the path. -/
theorem resolvePath_posixText {path : List (List UInt8)} (hne : path ≠ [])
    (h : ∀ c ∈ path, IsComponent c) (workingDirectory : List (List UInt8)) :
    resolvePath workingDirectory (posixText path) = path := by
  have hsplit : (posixText path).splitOn 47 = [] :: path := by
    apply List.splitOn_intercalate
    · intro c hc
      rcases List.mem_cons.mp hc with rfl | hc
      · exact List.not_mem_nil
      · exact (h c hc).no_separator
    · exact List.cons_ne_nil _ _
  obtain ⟨c, rest, rfl⟩ := List.exists_cons_of_ne_nil hne
  obtain ⟨tail, htail⟩ := posixText_cons c rest
  have hhead : (posixText (c :: rest)).head? = some 47 := by
    rw [htail, List.head?_cons]
  simp only [resolvePath, hsplit, hhead, if_true, List.foldl_cons]
  have hempty : resolveComponent [] [] = [] := by simp [resolveComponent]
  have hpath := foldl_resolveComponent h []
  rwa [List.nil_append, List.foldl_cons, ← hempty] at hpath

/-- The characters of an encoding end neither the authority, the path nor the URI. -/
theorem ne_of_isQuoted {c : Char} (h : isQuoted c = true) :
    c ≠ '#' ∧ c ≠ '?' ∧ c ≠ '\t' ∧ c ≠ '\r' ∧ c ≠ '\n' := by
  refine ⟨?_, ?_, ?_, ?_, ?_⟩ <;> (rintro rfl; exact absurd h (by decide))

/-- The URI of a path parses into the scheme `file` and the quoted path. -/
theorem urlparse_fileUri {path : List (List UInt8)} (hne : path ≠ []) :
    urlparse (fileUri path) = (['f', 'i', 'l', 'e'], quote (posixText path)) := by
  obtain ⟨c, rest, rfl⟩ := List.exists_cons_of_ne_nil hne
  obtain ⟨tail, htail⟩ := posixText_cons c rest
  have hslash : quoteByte 47 = ['/'] := by decide
  have hquote : quote (posixText (c :: rest)) = '/' :: quote tail := by
    rw [htail, quote, List.flatMap_cons, hslash, List.singleton_append, quote]
  have hquoted : ∀ d ∈ '/' :: quote tail, isQuoted d = true := by
    intro d hd
    rw [← hquote] at hd
    exact isQuoted_quote hd
  have hscheme : ∀ d ∈ ['f', 'i', 'l', 'e', ':', '/', '/'],
      (!(d == '\t' || d == '\r' || d == '\n')) = true := List.all_eq_true.mp (by decide)
  have hfilter : (fileUri (c :: rest)).filter (fun c => !(c == '\t' || c == '\r' || c == '\n')) =
      fileUri (c :: rest) := by
    apply List.filter_eq_self.mpr
    intro d hd
    rw [fileUri, hquote] at hd
    rcases List.mem_append.mp hd with hd | hd
    · exact hscheme d hd
    · obtain ⟨-, -, h1, h2, h3⟩ := ne_of_isQuoted (hquoted d hd)
      simp [h1, h2, h3]
  have htext : fileUri (c :: rest) =
      'f' :: 'i' :: 'l' :: 'e' :: ':' :: '/' :: '/' :: '/' :: quote tail := by
    rw [fileUri, hquote]
    rfl
  have hfragment : ('/' :: quote tail).takeWhile (fun d => d != '#') = '/' :: quote tail := by
    apply List.takeWhile_eq_self_iff.mpr
    intro d hd
    simp [(ne_of_isQuoted (hquoted d hd)).1]
  have hquery : ('/' :: quote tail).takeWhile (fun d => d != '?') = '/' :: quote tail := by
    apply List.takeWhile_eq_self_iff.mpr
    intro d hd
    simp [(ne_of_isQuoted (hquoted d hd)).2.1]
  have hstrip : (fileUri (c :: rest)).dropWhile (fun d => decide (d.toNat ≤ 32)) =
      fileUri (c :: rest) := by
    rw [htext, List.dropWhile_cons_of_neg (by decide)]
  simp only [urlparse, hstrip, hfilter]
  rw [htext, hquote]
  simp [isSchemeName, isSchemeChar, afterAuthority, hfragment, hquery]

/-- The way back from the URI of a path. -/
theorem resolvePath_fileUri {path : List (List UInt8)} (hne : path ≠ [])
    (h : ∀ c ∈ path, IsComponent c) (workingDirectory : List (List UInt8)) :
    resolvePath workingDirectory (unquote (urlparse (fileUri path)).2) = path := by
  rw [urlparse_fileUri hne, unquote_quote, resolvePath_posixText hne h]

end TaModel.Library

/-
Which repository a system's GitHub URL names.

`parse_repo_url` looks for `github.com`, a separator, an owner and a name anywhere in the
text. The name ends at the first slash or dot, so that `.git` is left off; a name with a
dot of its own loses what follows it.
-/
import EnvMgr.Lib.Pattern
import EnvMgr.Lib.Raising
import EnvMgr.Core.Values

namespace EnvMgr.Scanning

open Pattern

variable {url : Option String}

/-! ## `parse_repo_url` -/

def separator (c : Char) : Bool := c = ':' || c = '/'

def owner_letter (c : Char) : Bool := c ≠ '/'

def name_letter (c : Char) : Bool := c ≠ '/' && c ≠ '.'

/-- `github\.com[:/]+([^/]+)/([^/.]+)`. -/
def _REPO_URL : List (Item Char) :=
  literal "github.com".toList ++
    [.run separator false, .run owner_letter true, .letter '/', .run name_letter true]

/-- `match.group(1), match.group(2)`. -/
def groups : List (List Char) → String × String
  | [owner, repo] => (String.ofList owner, String.ofList repo)
  | _ => ("", "")

/-- Raises a `ValueError` with this text. -/
def parse_repo_url (url : Option String) : Except String (String × String) :=
  get_or_raise ((search _REPO_URL (url.getD "").toList).map groups)
    ("could not read an owner/repo from the system's GitHub URL: " ++
      (url.map py_repr).getD "None")

/-! ## The URLs of a repository -/

/-- The names GitHub admits, as far as they are told here from other text. -/
structure Names where
  owner : String → Prop
  repository : String → Prop
  owner_spelling : ∀ o, owner o → o ≠ "" ∧ ∀ c ∈ o.toList, c.isAlphanum ∨ c = '-'
  repository_spelling : ∀ r, repository r →
    r ≠ "" ∧ ∀ c ∈ r.toList, c.isAlphanum ∨ c ∈ ['.', '-', '_']

/-- The forms the URL of a repository takes. -/
def url_forms (owner repo : String) : List String :=
  ["https://github.com/" ++ owner ++ "/" ++ repo,
   "https://github.com/" ++ owner ++ "/" ++ repo ++ ".git",
   "https://github.com/" ++ owner ++ "/" ++ repo ++ "/",
   "git@github.com:" ++ owner ++ "/" ++ repo ++ ".git"]

/-- The URL is one of an admitted repository. -/
structure UrlOf (github : Names) (url : Option String) (owner repo : String) : Prop where
  owner_admitted : github.owner owner
  repo_admitted : github.repository repo
  form : ∃ text ∈ url_forms owner repo, url = some text

/-- The parse undoes the forms, and refuses what is none. -/
structure ReadAsMeant (github : Names) (url : Option String) : Prop where
  undone : ∀ owner repo, UrlOf github url owner repo → parse_repo_url url = .ok (owner, repo)
  refused : (∀ owner repo, ¬ UrlOf github url owner repo) → ∃ e, parse_repo_url url = .error e

/-- Somewhere `github.com`, colons or slashes, a text without a slash, a slash and a
letter that is neither a slash nor a dot. -/
def NamesSomething (url : Option String) : Prop :=
  ∃ before separators owner rest : List Char, ∃ c : Char,
    (url.getD "").toList = before ++ "github.com".toList ++ separators ++ owner ++ '/' :: c :: rest ∧
      separators ≠ [] ∧ (∀ s ∈ separators, s = ':' ∨ s = '/') ∧ owner ≠ [] ∧ '/' ∉ owner ∧
      c ≠ '/' ∧ c ≠ '.'

/-! ## What is read -/

theorem parse_repo_url_eq_ok {pair : String × String} :
    parse_repo_url url = .ok pair ↔
      ∃ captures, search _REPO_URL (url.getD "").toList = some captures ∧
        groups captures = pair := by
  rw [parse_repo_url, get_or_raise_eq_ok, Option.map_eq_some_iff]

theorem parse_repo_url_refuses :
    (∃ e, parse_repo_url url = .error e) ↔ search _REPO_URL (url.getD "").toList = none := by
  simp only [parse_repo_url, get_or_raise_eq_error, Option.map_eq_none_iff, exists_and_left,
    exists_eq', and_true]

/-- The pattern, read from left to right. -/
theorem reads_repo_url_iff {text : List Char} {captures : List (List Char)} :
    Reads _REPO_URL text captures ↔
      ∃ separators owner name rest : List Char,
        text = "github.com".toList ++ (separators ++ (owner ++ '/' :: (name ++ rest))) ∧
          separators ≠ [] ∧ (∀ c ∈ separators, separator c = true) ∧
          owner ≠ [] ∧ (∀ c ∈ owner, owner_letter c = true) ∧
          name ≠ [] ∧ (∀ c ∈ name, name_letter c = true) ∧ captures = [owner, name] := by
  rw [_REPO_URL, reads_literal_iff]
  constructor
  · rintro ⟨_, rfl, hread⟩
    obtain ⟨separators, _, _, rfl, hsome, hseparators, hpath, rfl⟩ := reads_run_iff.1 hread
    obtain ⟨owner, _, _, rfl, howner, howned, hslash, rfl⟩ := reads_run_iff.1 hpath
    obtain ⟨_, rfl, hlast⟩ := reads_letter_iff.1 hslash
    obtain ⟨name, rest, _, rfl, hname, hnamed, hend, rfl⟩ := reads_run_iff.1 hlast
    obtain rfl := reads_nil_iff.1 hend
    exact ⟨separators, owner, name, rest, rfl, hsome, hseparators, howner, howned, hname, hnamed,
      rfl⟩
  · rintro ⟨separators, owner, name, rest, rfl, hsome, hseparators, howner, howned, hname, hnamed,
      rfl⟩
    exact ⟨_, rfl, .run hsome hseparators
      (.run howner howned (.letter (.run hname hnamed .done)))⟩

/-- A refusal means that there is nothing to read. -/
theorem refused_iff :
    (∃ e, parse_repo_url url = .error e) ↔ ¬ NamesSomething url := by
  rw [parse_repo_url_refuses, search_eq_none_iff]
  constructor
  · rintro hnone ⟨before, separators, owner, rest, c, htext, hsome, hseparators, howner, hslash,
      hc, hdot⟩
    -- a name of the one letter is enough for the pattern
    refine hnone before _ [owner, [c]] ?_ (reads_repo_url_iff.2
      ⟨separators, owner, [c], rest, rfl, hsome, ?_, howner, ?_, by simp, ?_, rfl⟩)
    · rw [htext]
      simp only [List.append_assoc, List.cons_append, List.nil_append]
    · intro s hs
      simpa [separator] using hseparators s hs
    · intro d hd
      simpa [owner_letter] using ne_of_mem_of_not_mem hd hslash
    · simpa [name_letter] using ⟨hc, hdot⟩
  · intro hnone before text captures htext hreads
    obtain ⟨separators, owner, name, rest, rfl, hsome, hseparators, howner, howned, hname, hnamed,
      -⟩ := reads_repo_url_iff.1 hreads
    obtain ⟨c, name, rfl⟩ := List.exists_cons_of_ne_nil hname
    refine hnone ⟨before, separators, owner, name ++ rest, c, ?_, hsome, ?_, howner, ?_, ?_⟩
    · rw [htext]
      simp only [List.append_assoc, List.cons_append]
    · intro s hs
      simpa [separator] using hseparators s hs
    · intro hslash
      simpa [owner_letter] using howned '/' hslash
    · simpa [name_letter] using hnamed c List.mem_cons_self

/-- The name that is read has no dot. -/
theorem dot_notMem_of_parse {owner repo : String} (h : parse_repo_url url = .ok (owner, repo)) :
    '.' ∉ repo.toList := by
  obtain ⟨captures, hsearch, hgroups⟩ := parse_repo_url_eq_ok.1 h
  obtain ⟨before, text, -, hreads⟩ := search_reads hsearch
  obtain ⟨separators, owner', name, rest, -, -, -, -, -, -, hnamed, rfl⟩ :=
    reads_repo_url_iff.1 hreads
  obtain rfl : String.ofList name = repo := congrArg Prod.snd hgroups
  rw [String.toList_ofList]
  intro hdot
  simpa [name_letter] using hnamed '.' hdot

/-! ## The forms -/

/-- The pattern at `github.com`, with one separator after it. -/
theorem attempt_repo_url {separator_ : Char} {owner repo rest : List Char}
    (hseparator : separator separator_ = true) (howner : owner ≠ [])
    (howned : ∀ c ∈ owner, c.isAlphanum ∨ c = '-') (hrepo : repo ≠ [])
    (hnamed : ∀ c ∈ repo, name_letter c = true) (hend : ∀ c ∈ rest.head?, name_letter c = false) :
    attempt _REPO_URL
        ("github.com".toList ++ ([separator_] ++ (owner ++ '/' :: (repo ++ rest)))) =
      some [owner, repo] := by
  have hletter : ∀ c ∈ owner, owner_letter c = true ∧ separator c = false := by
    intro c hc
    rcases howned c hc with halnum | rfl
    · have hslash : c ≠ '/' := by
        rintro rfl
        simp at halnum
      have hcolon : c ≠ ':' := by
        rintro rfl
        simp at halnum
      simp [owner_letter, separator, hslash, hcolon]
    · decide
  have hname : attempt [.run name_letter true] (repo ++ rest) = some [repo] :=
    attempt_run true hrepo hnamed hend rfl
  have hslash : attempt [.letter '/', .run name_letter true] ('/' :: (repo ++ rest)) =
      some [repo] := (if_pos rfl).trans hname
  have hboth : attempt [.run owner_letter true, .letter '/', .run name_letter true]
      (owner ++ '/' :: (repo ++ rest)) = some [owner, repo] := by
    refine attempt_run true howner (fun c hc => (hletter c hc).1) ?_ hslash
    intro c hc
    obtain rfl : '/' = c := by simpa using hc
    rfl
  rw [_REPO_URL, attempt_literal]
  refine attempt_run false (by simp) (by simpa using hseparator) ?_ hboth
  intro c hc
  obtain ⟨d, owner, rfl⟩ := List.exists_cons_of_ne_nil howner
  obtain rfl : d = c := by simpa using hc
  exact (hletter d List.mem_cons_self).2

/-! Nothing in front of `github.com` starts like it, but for the `g` of `git@`. -/

theorem search_https (text : List Char) :
    search _REPO_URL ("https://".toList ++ text) = search _REPO_URL text :=
  search_append (by decide)

theorem search_git (text : List Char) :
    search _REPO_URL ("git@".toList ++ text) = search _REPO_URL text := by
  have hg : attempt _REPO_URL ("git@".toList ++ text) = none := by
    simp [_REPO_URL, literal, attempt]
  have hit : search _REPO_URL ("it@".toList ++ text) = search _REPO_URL text :=
    search_append (by decide)
  exact (search_cons hg).trans hit

/-- A name without a dot is read whole, from each of the forms. -/
theorem parse_form {github : Names} {owner repo : String} (h : UrlOf github url owner repo)
    (hdot : '.' ∉ repo.toList) :
    parse_repo_url url = .ok (owner, repo) := by
  obtain ⟨howner, howned⟩ := github.owner_spelling owner h.owner_admitted
  obtain ⟨hrepo, hspelt⟩ := github.repository_spelling repo h.repo_admitted
  have hnamed : ∀ c ∈ repo.toList, name_letter c = true := by
    intro c hc
    have hc' : c ≠ '/' := by
      rintro rfl
      simpa using hspelt _ hc
    simpa [name_letter] using ⟨hc', ne_of_mem_of_not_mem hc hdot⟩
  have howner' : owner.toList ≠ [] := by simpa using howner
  have hrepo' : repo.toList ≠ [] := by simpa using hrepo
  rw [parse_repo_url_eq_ok]
  refine ⟨[owner.toList, repo.toList], ?_, by simp [groups]⟩
  have hfits : ∀ (separator_ : Char) (rest : List Char), separator separator_ = true →
      (∀ c ∈ rest.head?, name_letter c = false) →
      search _REPO_URL ("github.com".toList ++ ([separator_] ++
        (owner.toList ++ '/' :: (repo.toList ++ rest)))) = some [owner.toList, repo.toList] := by
    intro separator_ rest hseparator hend
    exact search_eq_of_attempt
      (attempt_repo_url hseparator howner' howned hrepo' hnamed hend)
  obtain ⟨text, htext, rfl⟩ := h.form
  simp only [url_forms, List.mem_cons, List.not_mem_nil, or_false] at htext
  rcases htext with rfl | rfl | rfl | rfl
  · have htext : ("https://github.com/" ++ owner ++ "/" ++ repo).toList =
        "https://".toList ++ ("github.com".toList ++ (['/'] ++
          (owner.toList ++ '/' :: (repo.toList ++ [])))) := by simp
    rw [Option.getD_some, htext, search_https]
    exact hfits '/' [] rfl (by simp)
  · have htext : ("https://github.com/" ++ owner ++ "/" ++ repo ++ ".git").toList =
        "https://".toList ++ ("github.com".toList ++ (['/'] ++
          (owner.toList ++ '/' :: (repo.toList ++ ".git".toList)))) := by simp
    rw [Option.getD_some, htext, search_https]
    exact hfits '/' ".git".toList rfl (by simp [name_letter])
  · have htext : ("https://github.com/" ++ owner ++ "/" ++ repo ++ "/").toList =
        "https://".toList ++ ("github.com".toList ++ (['/'] ++
          (owner.toList ++ '/' :: (repo.toList ++ "/".toList)))) := by simp
    rw [Option.getD_some, htext, search_https]
    exact hfits '/' "/".toList rfl (by simp [name_letter])
  · have htext : ("git@github.com:" ++ owner ++ "/" ++ repo ++ ".git").toList =
        "git@".toList ++ ("github.com".toList ++ ([':'] ++
          (owner.toList ++ '/' :: (repo.toList ++ ".git".toList)))) := by simp
    rw [Option.getD_some, htext, search_git]
    exact hfits ':' ".git".toList rfl (by simp [name_letter])

/-! ## When the URL is read as it is meant -/

/-- **Which URLs are read as meant.** A URL of an admitted repository gives exactly its
owner and name, and any other text is refused, if and only if the name has no dot, or the
text is none of the forms and names nothing. -/
theorem read_as_meant_iff (github : Names) (url : Option String) :
    ReadAsMeant github url ↔
      (∀ owner repo, UrlOf github url owner repo → '.' ∉ repo.toList) ∧
        ((∀ owner repo, ¬ UrlOf github url owner repo) → ¬ NamesSomething url) := by
  constructor
  · intro h
    exact ⟨fun owner repo hform => dot_notMem_of_parse (h.undone owner repo hform),
      fun hnone => refused_iff.1 (h.refused hnone)⟩
  · rintro ⟨hdot, hnothing⟩
    exact ⟨fun owner repo hform => parse_form hform (hdot owner repo hform),
      fun hnone => refused_iff.2 (hnothing hnone)⟩

namespace DottedName

def owner_spelt (o : String) : Prop := o ≠ "" ∧ ∀ c ∈ o.toList, c.isAlphanum ∨ c = '-'

def repository_spelt (r : String) : Prop :=
  r ≠ "" ∧ ∀ c ∈ r.toList, c.isAlphanum ∨ c ∈ ['.', '-', '_']

/-- Every name of these letters. -/
def github : Names where
  owner := owner_spelt
  repository := repository_spelt
  owner_spelling := fun _ h => h
  repository_spelling := fun _ h => h

end DottedName

/-- The repository `socket.io` is read as the repository `socket`. -/
theorem dotted_name_cut :
    UrlOf DottedName.github (some "https://github.com/socketio/socket.io") "socketio" "socket.io" ∧
      parse_repo_url (some "https://github.com/socketio/socket.io") = .ok ("socketio", "socket") ∧
      ¬ ReadAsMeant DottedName.github (some "https://github.com/socketio/socket.io") := by
  have hform : UrlOf DottedName.github (some "https://github.com/socketio/socket.io")
      "socketio" "socket.io" := by
    refine ⟨⟨by decide, by simp⟩, ⟨by decide, by simp⟩, _, List.mem_cons_self, rfl⟩
  refine ⟨hform, by decide, fun h => ?_⟩
  have hread := dot_notMem_of_parse (h.undone _ _ hform)
  exact hread (by decide)

end EnvMgr.Scanning

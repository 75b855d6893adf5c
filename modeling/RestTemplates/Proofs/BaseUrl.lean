import Mathlib.Data.List.TakeWhile
import RestTemplates.Config
import RestTemplates.Proofs.Fallible

/-!
# Base URLs — what becomes of a validated host

A host is validated by the characters it holds, and then read as what follows the two slashes of a
URL.  The characters that are refused keep it out of user name, query and fragment.  The backslash
is not among them, although a URL reads it as a slash: from a backslash on, the text is a path, and
the base URL has another path than `/`.

This file defines:

* `Config.IsHostChar`, the characters that validation lets pass,
* `Config.hostCut`, the host and port of the text and what is behind them.

It proves:

* `Config.hostFault?_eq_none_iff`, which hosts are valid,
* `Config.hostCut_affixes`, what of a host is read,
* `Config.baseUrl_eq_ok_iff`, which hosts have a base URL, and which,
* `Config.baseUrl_bare_iff`, when the base URL is nothing but scheme, host and port.
-/

namespace RestTemplates

open Fallible

/-! ## Cuts -/

namespace Url

theorem cutAt_append (stop : Char → Bool) (cs : List Char) :
    (cutAt stop cs).1 ++ (cutAt stop cs).2 = cs :=
  List.takeWhile_append_dropWhile

theorem cutAt_eq_self {stop : Char → Bool} {cs : List Char} (h : ∀ c ∈ cs, stop c = false) :
    cutAt stop cs = (cs, []) := by
  have hgo : ∀ c ∈ cs, (!stop c) = true := by
    intro c hc
    rw [h c hc]
    rfl
  rw [cutAt, List.takeWhile_eq_self_iff.2 hgo, List.dropWhile_eq_nil_iff.2 hgo]

theorem cutAt_congr {stop stop' : Char → Bool} {cs : List Char}
    (h : ∀ c ∈ cs, stop c = stop' c) : cutAt stop cs = cutAt stop' cs := by
  induction cs with
  | nil => rfl
  | cons c rest ih =>
      have hrest := ih fun d hd => h d (List.mem_cons_of_mem _ hd)
      have hc := h c List.mem_cons_self
      simp only [cutAt, Prod.mk.injEq] at hrest
      simp only [cutAt, List.takeWhile_cons, List.dropWhile_cons, hc, hrest.1, hrest.2]

/-- What was a port before it was cut off. -/
def portSuffix : Option (List Char) → List Char
  | some digits => ':' :: digits
  | none => []

theorem splitPort_append (inside : Bool) (text : List Char) :
    (splitPort inside text).1 ++ portSuffix (splitPort inside text).2 = text := by
  fun_induction splitPort inside text with
  | case1 inside => rfl
  | case2 rest parts ih => exact congrArg (List.cons ':') ih
  | case3 inside rest houtside => rfl
  | case4 inside c rest hcolon parts ih => exact congrArg (List.cons c) ih

end Url

namespace Config

/-! ## Validation -/

/-- The characters that validation lets pass. -/
def IsHostChar (c : Char) : Prop := isBlank c = false ∧ c ≠ '/' ∧ isDelimiter c = false

theorem IsHostChar.ne_delimiter {c : Char} (h : IsHostChar c) : c ≠ '?' ∧ c ≠ '#' ∧ c ≠ '@' := by
  have hdelimiter := h.2.2
  simp only [isDelimiter, Bool.or_eq_false_iff, decide_eq_false_iff_not] at hdelimiter
  exact ⟨hdelimiter.1.1, hdelimiter.1.2, hdelimiter.2⟩

/-- Validation is a matter of single characters; a host with a scheme is refused for its slashes. -/
theorem hostFault?_eq_none_iff {host : String} :
    hostFault? host = none ↔ host.toList ≠ [] ∧ ∀ c ∈ host.toList, IsHostChar c := by
  simp only [hostFault?]
  constructor
  · intro h
    split_ifs at h with hempty hscheme hblank hslash
    rw [Option.map_eq_none_iff, List.find?_eq_none] at h
    refine ⟨hempty, ?_⟩
    intro c hc
    refine ⟨?_, ?_, Bool.eq_false_iff.2 (h c hc)⟩
    · exact Bool.eq_false_iff.2 fun hc' => hblank (List.any_eq_true.2 ⟨c, hc, hc'⟩)
    · rintro rfl
      exact hslash (List.contains_iff_mem.2 hc)
  · rintro ⟨hempty, hchars⟩
    have hslash : '/' ∉ host.toList := fun hmem => (hchars '/' hmem).2.1 rfl
    have hscheme : HeaderName.occursIn "://".toList host.toList = false :=
      Bool.eq_false_iff.2 fun h => hslash ((HeaderName.occursIn_iff.1 h).subset (by decide))
    have hblank : host.toList.any isBlank = false := by
      refine List.any_eq_false.2 ?_
      intro c hc
      rw [(hchars c hc).1]
      decide
    have hdelimiter : host.toList.find? isDelimiter = none := by
      refine List.find?_eq_none.2 ?_
      intro c hc
      rw [(hchars c hc).2.2]
      decide
    rw [if_neg hempty, hscheme, hblank, hdelimiter]
    simp [hslash]

theorem validate_eq_ok_iff {c : Config} : c.validate = .ok () ↔ hostFault? c.host = none := by
  rw [validate]
  cases hostFault? c.host <;> simp

/-! ## Reading -/

/-- The text of a host that is read: control characters at its end and slashes at its start do not
count. -/
def readHost (host : String) : List Char :=
  (host.toList.reverse.dropWhile (· ≤ ' ')).reverse.dropWhile Url.isSlash

/-- The host with its port, and what is behind it from the first slash on. -/
def hostCut (host : String) : List Char × List Char := Url.cutAt Url.isSlash (readHost host)

theorem hostCut_affixes (host : String) :
    ∃ slashes controls, (∀ c ∈ slashes, Url.isSlash c = true) ∧ (∀ c ∈ controls, c ≤ ' ') ∧
      host.toList = slashes ++ (hostCut host).1 ++ (hostCut host).2 ++ controls := by
  refine ⟨(host.toList.reverse.dropWhile (· ≤ ' ')).reverse.takeWhile Url.isSlash,
    (host.toList.reverse.takeWhile (· ≤ ' ')).reverse, ?_, ?_, ?_⟩
  · exact fun c hc => List.mem_takeWhile_imp hc
  · intro c hc
    have hcontrol := List.mem_takeWhile_imp (List.mem_reverse.1 hc)
    exact of_decide_eq_true hcontrol
  · rw [List.append_assoc _ (hostCut host).1, hostCut, Url.cutAt_append, readHost,
      List.takeWhile_append_dropWhile, ← List.reverse_append, List.takeWhile_append_dropWhile,
      List.reverse_reverse]

theorem mem_of_mem_hostCut {host : String} {c : Char}
    (hc : c ∈ (hostCut host).1 ∨ c ∈ (hostCut host).2) : c ∈ host.toList := by
  obtain ⟨slashes, controls, -, -, hhost⟩ := hostCut_affixes host
  rw [hhost]
  rcases hc with hc | hc <;> simp [hc]

theorem mem_of_mem_readHost {host : String} {c : Char} (hc : c ∈ readHost host) :
    c ∈ host.toList := by
  rw [← Url.cutAt_append Url.isSlash (readHost host)] at hc
  exact mem_of_mem_hostCut (List.mem_append.1 hc)

theorem isSkipped_of_isHostChar {c : Char} (h : IsHostChar c) : UrlPath.isSkipped c = false := by
  refine Bool.eq_false_iff.2 ?_
  intro hskipped
  have hblank := h.1
  simp only [UrlPath.isSkipped, Bool.or_eq_true, decide_eq_true_eq] at hskipped
  rcases hskipped with (rfl | rfl) | rfl
  all_goals exact absurd hblank (by decide)

/-- Behind the two slashes of a URL, a valid host is read in this way. -/
theorem read_slashes_host {host : String} (h : ∀ c ∈ host.toList, IsHostChar c) :
    ((("//" ++ host).toList.reverse.dropWhile (· ≤ ' ')).reverse.filter
      fun c => !UrlPath.isSkipped c).dropWhile Url.isSlash = readHost host := by
  have htext : ("//" ++ host).toList.reverse = host.toList.reverse ++ ['/', '/'] := by
    rw [String.toList_append, List.reverse_append]
    rfl
  -- the two slashes stop the trimming at the end, even of a host that is all control characters
  have htrim : (host.toList.reverse ++ ['/', '/']).dropWhile (· ≤ ' ') =
      host.toList.reverse.dropWhile (· ≤ ' ') ++ ['/', '/'] := by
    rw [List.dropWhile_append]
    split
    · next hempty =>
      rw [List.isEmpty_iff.1 hempty]
      rfl
    · rfl
  have hfilter : (host.toList.reverse.dropWhile (· ≤ ' ')).reverse.filter
      (fun c => !UrlPath.isSkipped c) = (host.toList.reverse.dropWhile (· ≤ ' ')).reverse := by
    refine List.filter_eq_self.2 ?_
    intro c hc
    have hmem : c ∈ host.toList :=
      List.mem_reverse.1 ((List.dropWhile_sublist _).subset (List.mem_reverse.1 hc))
    rw [isSkipped_of_isHostChar (h c hmem)]
    rfl
  rw [htext, htrim, List.reverse_append, List.filter_append, hfilter, readHost]
  rfl

/-- The URL of a host and its port, with the path that a text is read as. -/
def hostUrl (scheme : Scheme) (name : Host) (port : Option Nat) (behind : List Char) : Url :=
  { scheme, port
    username := ""
    password := none
    host := name
    path := String.ofList (UrlPath.normalize behind)
    query := none
    fragment := none }

/-- The host and its port are cut off, and all that is behind them is the path. -/
theorem parse_slashes_host {scheme : Scheme} {host : String} (h : ∀ c ∈ host.toList, IsHostChar c) :
    Url.parse scheme ("//" ++ host) =
      (Host.parse (Url.splitPort false (hostCut host).1).1).bind fun name =>
        (Url.parsePort scheme ((Url.splitPort false (hostCut host).1).2.getD [])).map fun port =>
          hostUrl scheme name port (hostCut host).2 := by
  have hbefore : ∀ c ∈ (hostCut host).1, IsHostChar c := fun c hc =>
    h c (mem_of_mem_hostCut (Or.inl hc))
  have hbehind : ∀ c ∈ (hostCut host).2, IsHostChar c := fun c hc =>
    h c (mem_of_mem_hostCut (Or.inr hc))
  -- the host ends at a slash only, since the other two marks do not occur
  have hcut : Url.cutAt (fun c => Url.isSlash c || c = '?' || c = '#') (readHost host) =
      hostCut host := by
    refine Url.cutAt_congr ?_
    intro c hc
    obtain ⟨hquestion, hhash, -⟩ := (h c (mem_of_mem_readHost hc)).ne_delimiter
    simp [hquestion, hhash]
  have hcredentials : Url.splitCredentials (hostCut host).1 = (none, (hostCut host).1) := by
    have hat : '@' ∉ (hostCut host).1 := fun hmem => (hbefore '@' hmem).ne_delimiter.2.2 rfl
    rw [Url.splitCredentials, if_neg (mt List.contains_iff_mem.1 hat)]
  have hfragment : Url.cutAt (· = '#') (hostCut host).2 = ((hostCut host).2, []) :=
    Url.cutAt_eq_self fun c hc => decide_eq_false (hbehind c hc).ne_delimiter.2.1
  have hquery : Url.cutAt (· = '?') (hostCut host).2 = ((hostCut host).2, []) :=
    Url.cutAt_eq_self fun c hc => decide_eq_false (hbehind c hc).ne_delimiter.1
  rw [Url.parse]
  simp only [read_slashes_host h, hcut, hcredentials, hfragment, hquery]
  rfl

/-! ## Base URLs -/

theorem baseUrl_eq_ok_iff {config : Config} {url : Url} :
    config.baseUrl = .ok url ↔
      hostFault? config.host = none ∧
        ∃ name port,
          Host.parse (Url.splitPort false (hostCut config.host).1).1 = .ok name ∧
          Url.parsePort config.scheme
            ((Url.splitPort false (hostCut config.host).1).2.getD []) = .ok port ∧
          url = hostUrl config.scheme name port (hostCut config.host).2 := by
  constructor
  · intro h
    obtain ⟨_, hvalid, hparse⟩ := bind_eq_ok_iff.1 h
    have hfault := validate_eq_ok_iff.1 hvalid
    rw [mapError_eq_ok_iff, parse_slashes_host (hostFault?_eq_none_iff.1 hfault).2] at hparse
    obtain ⟨name, hname, hrest⟩ := bind_eq_ok_iff.1 hparse
    obtain ⟨port, hport, rfl⟩ := map_eq_ok_iff.1 hrest
    exact ⟨hfault, name, port, hname, hport, rfl⟩
  · rintro ⟨hfault, name, port, hname, hport, rfl⟩
    refine bind_eq_ok_iff.2 ⟨(), validate_eq_ok_iff.2 hfault, ?_⟩
    rw [mapError_eq_ok_iff, parse_slashes_host (hostFault?_eq_none_iff.1 hfault).2]
    exact bind_eq_ok_iff.2 ⟨name, hname, map_eq_ok_iff.2 ⟨port, hport, rfl⟩⟩

end Config

/-- The URL consists of a scheme, a host, a port and a path. -/
structure Url.HasOnlyPath (u : Url) : Prop where
  username : u.username = ""
  password : u.password = none
  query : u.query = none
  fragment : u.fragment = none

namespace Config

theorem hasOnlyPath_baseUrl {config : Config} {url : Url} (h : config.baseUrl = .ok url) :
    url.HasOnlyPath := by
  obtain ⟨-, name, port, -, -, rfl⟩ := baseUrl_eq_ok_iff.1 h
  exact ⟨rfl, rfl, rfl, rfl⟩

/-- A host without slashes is read up to the control characters at its end. -/
theorem hostCut_of_no_slash {host : String} (h : ∀ c ∈ host.toList, Url.isSlash c = false) :
    (hostCut host).2 = [] ∧
      ∃ controls, (∀ c ∈ controls, c ≤ ' ') ∧ host.toList = (hostCut host).1 ++ controls := by
  have hbehind : (hostCut host).2 = [] := by
    rw [hostCut, Url.cutAt_eq_self fun c hc => h c (mem_of_mem_readHost hc)]
  refine ⟨hbehind, ?_⟩
  obtain ⟨slashes, controls, hslashes, hcontrols, hhost⟩ := hostCut_affixes host
  -- there is no backslash to be dropped at the start either
  have hnone : slashes = [] := by
    refine List.eq_nil_iff_forall_not_mem.2 ?_
    intro c hc
    have hmem : c ∈ host.toList := by
      rw [hhost]
      simp [hc]
    exact absurd (hslashes c hc) (Bool.eq_false_iff.1 (h c hmem))
  rw [hnone, hbehind, List.nil_append, List.append_nil] at hhost
  exact ⟨controls, hcontrols, hhost⟩

/-- A base URL has the scheme of the client and neither user name nor password, query or fragment.
Its path is `/` exactly if what is behind the host, from a backslash on, is read as that path; a
host without a backslash is all host and port. -/
theorem baseUrl_bare_iff {config : Config} {url : Url} (h : config.baseUrl = .ok url) :
    url.scheme = config.scheme ∧ url.HasOnlyPath ∧
      Host.parse (Url.splitPort false (hostCut config.host).1).1 = .ok url.host ∧
      Url.parsePort config.scheme
        ((Url.splitPort false (hostCut config.host).1).2.getD []) = .ok url.port ∧
      (url.path = "/" ↔ UrlPath.normalize (hostCut config.host).2 = ['/']) ∧
      ('\\' ∉ config.host.toList →
        url.path = "/" ∧
          ∃ controls, (∀ c ∈ controls, c ≤ ' ') ∧
            config.host.toList =
              (Url.splitPort false (hostCut config.host).1).1 ++
                Url.portSuffix (Url.splitPort false (hostCut config.host).1).2 ++ controls) := by
  have honly := hasOnlyPath_baseUrl h
  obtain ⟨hfault, name, port, hname, hport, rfl⟩ := baseUrl_eq_ok_iff.1 h
  refine ⟨rfl, honly, hname, hport, String.ofList_inj, ?_⟩
  intro hbackslash
  have hslash : ∀ c ∈ config.host.toList, Url.isSlash c = false := by
    intro c hc
    have hne : c ≠ '\\' := fun heq => hbackslash (heq ▸ hc)
    have hchar := (hostFault?_eq_none_iff.1 hfault).2 c hc
    simp [Url.isSlash, hchar.2.1, hne]
  obtain ⟨hbehind, controls, hcontrols, hhost⟩ := hostCut_of_no_slash hslash
  refine ⟨?_, controls, hcontrols, ?_⟩
  · have hroot : String.ofList (UrlPath.normalize []) = "/" := by
      decide
    rw [hostUrl, hbehind]
    exact hroot
  · rw [Url.splitPort_append, hhost]

theorem localhost_base_bare :
    ∃ url, (Config.new .http "localhost:8080").baseUrl = .ok url ∧ url.HasOnlyPath ∧
      url.path = "/" ∧ url.port = some 8080 := by
  have hurl : (Config.new .http "localhost:8080").baseUrl =
      .ok (hostUrl .http (.name "localhost") (some 8080) []) := by
    decide +kernel
  obtain ⟨-, honly, -, -, -, hbare⟩ := baseUrl_bare_iff hurl
  exact ⟨_, hurl, honly, (hbare (by decide)).1, rfl⟩

/-- What is behind a backslash is a path. -/
theorem backslash_host_has_path :
    ∃ url, (Config.new .https "h\\x").baseUrl = .ok url ∧ url.path = "/x" ∧ url.path ≠ "/" := by
  have hurl : (Config.new .https "h\\x").baseUrl =
      .ok (hostUrl .https (.name "h") none ['\\', 'x']) := by
    decide +kernel
  exact ⟨_, hurl, by decide, by decide⟩

end Config

end RestTemplates

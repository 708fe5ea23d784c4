import EmitBridge.Load.Fetch
import EmitBridge.Proofs.FilePath.Normal
import EmitBridge.Proofs.Location.Written
import EmitBridge.Proofs.Text.Hex
import EmitBridge.Proofs.Url.Host

/-! Where modules lie in a cache. Two addresses share a file exactly if they name one service of one
host and what they ask of it has one digest: no host passes for a host with a service number, and no
path for a path with a query. -/

namespace EmitBridge

open HostNames.AsciiOnly

namespace Sha256

theorem length_bigEndian (width n : Nat) : (bigEndian width n).length = width := by
  induction width generalizing n with
  | zero => rfl
  | succ width ih => rw [bigEndian, List.length_append, ih, List.length_singleton]

theorem length_digest (bs : List UInt8) : (digest bs).length = 32 := by
  have hwords (s : State) : (s.words.flatMap fun w => bigEndian 4 w.toNat).length = 32 := by
    simp only [State.words, List.flatMap_cons, List.flatMap_nil, List.length_append,
      length_bigEndian, List.length_nil]
  exact hwords _

theorem length_hex (bs : List UInt8) : (hex bs).length = 64 := by
  rw [hex, Hex.length_ofBytes, length_digest]

theorem hex_eq_iff {as bs : List UInt8} : hex as = hex bs ↔ digest as = digest bs :=
  Hex.ofBytes_injective.eq_iff

end Sha256

theorem Authority.natText_injective : Function.Injective natText := by
  intro n m h
  have hdigits (n : Nat) : natText n = Nat.toDigits 10 n := by
    rw [natText, Nat.toString_eq_ofList_toDigits, String.toList_ofList]
  have hread := congrArg (Nat.ofDigitChars 10 · 0) h
  have hdecimal : 1 < 10 := by decide
  simpa only [hdigits, Nat.ofDigitChars_toDigits hdecimal (Nat.le_refl 10)] using hread

namespace PosixPath

theorem ofString_of_isSegment {s : String} (h : IsSegment s.toList) : ofString s = ⟨"", [s]⟩ := by
  obtain ⟨hproper, hslash⟩ := h
  have hnone : s.toList.dropWhile (· == '/') = s.toList := by
    cases hs : s.toList with
    | nil => rfl
    | cons c rest =>
      rw [hs] at hslash
      have hc : (c == '/') = false := beq_false_of_ne fun he => hslash (he ▸ List.mem_cons_self)
      exact List.dropWhile_cons_of_neg (by rw [hc]; decide)
  have hroot : splitRoot s.toList = ([], s.toList) := by
    unfold splitRoot
    simp only [hnone, Nat.sub_self]
  rw [ofString, ofChars, hroot]
  simp only [Cut.all_of_notMem hslash, List.filter_cons_of_pos hproper, List.filter_nil,
    List.map_cons, List.map_nil, String.ofList_toList]

theorem append_segment (p : PosixPath) {s : String} (h : IsSegment s.toList) :
    p ++ ofString s = ⟨p.root, p.parts ++ [s]⟩ := by
  rw [ofString_of_isSegment h]
  rfl

end PosixPath

namespace Url

structure Addresses (u : Url) (host : List Char) (n : Nat) : Prop where
  scheme : u.scheme ∈ Fetch.remoteSchemes
  host : u.rawHost = .ok (some host)
  portNumber : u.portNumber = .ok (some n)

structure IsCanonicalHost (host : List Char) : Prop where
  nonempty : host ≠ []
  lower : ∀ c ∈ host, c.isUpper = false
  notDot : host ≠ ['.']
  notDots : host ≠ ['.', '.']

variable {s : String} {u : Url} {host : List Char} {n : Nat}

theorem Addresses.exists_parts (h : u.Addresses host n) :
    ∃ a, u.parts = .ok a ∧ a.host = some host ∧
      a.portNumber.or (defaultPort? u.scheme) = some n := by
  cases ha : u.parts with
  | error e =>
    have hhost := h.host
    rw [rawHost, ha] at hhost
    cases hhost
  | ok a =>
    have hhost := h.host
    have hnumber := h.portNumber
    rw [rawHost, ha] at hhost
    rw [Url.portNumber, ha] at hnumber
    exact ⟨a, rfl, Except.ok.inj hhost, Except.ok.inj hnumber⟩

theorem isDefaultPort_of_addresses [HostNames] (hu : verbatim s = .ok u) (h : u.Addresses host n) :
    u.isDefaultPort = .ok (decide (defaultPort? u.scheme = some n)) := by
  obtain ⟨a, ha, hhost, hn⟩ := h.exists_parts
  rw [isDefaultPort, ha]
  refine congrArg Except.ok ?_
  cases hnumber : a.portNumber with
  | some k =>
    obtain rfl : k = n := by simpa [hnumber] using hn
    simp only [hnumber, Bool.beq_eq_decide_eq]
  | none =>
    -- an authority in which there is a host is not empty
    have hread : Authority.read u.authority.toList = .ok a := by
      rwa [parts, known_of_verbatim hu] at ha
    have hauthority : u.authority.isEmpty = false := by
      rw [isEmpty_eq_toList, List.isEmpty_eq_false_iff]
      intro hempty
      rw [hempty] at hread
      cases hread
      cases hhost
    have hdefault : defaultPort? u.scheme = some n := by simpa [hnumber] using hn
    simp [hnumber, hauthority, hdefault]

theorem notMem_slash_of_addresses [HostNames] (hu : verbatim s = .ok u) (h : u.Addresses host n) :
    '/' ∉ host := by
  obtain ⟨a, ha, hhost, -⟩ := h.exists_parts
  have hread : Authority.read u.authority.toList = .ok a := by
    rwa [parts, known_of_verbatim hu] at ha
  have hinside : a.StaysInside :=
    Authority.staysInside_read (separated_of_verbatim hu).authority hread
  intro hslash
  have hleaves : leavesAuthority '/' = false := hinside.host host hhost '/' hslash
  exact absurd hleaves (by decide)

theorem target_eq_iff [HostNames] {t : String} {v : Url} (hu : verbatim s = .ok u)
    (hv : verbatim t = .ok v) :
    u.target = v.target ↔ u.rawPath = v.rawPath ∧ u.query = v.query := by
  have hpath {s : String} {u : Url} (hu : verbatim s = .ok u) : '?' ∉ u.rawPath.toList := by
    intro hmark
    rw [rawPath] at hmark
    split at hmark
    · exact absurd hmark (by decide)
    · exact ((separated_of_verbatim hu).path _ hmark).1 rfl
  have htext (u : Url) : u.target.toList =
      u.rawPath.toList ++ if u.query.toList.isEmpty then [] else '?' :: u.query.toList := by
    rw [target, isEmpty_eq_toList]
    split
    · exact (List.append_nil _).symm
    · rw [String.toList_append, String.toList_append, List.append_assoc]
      rfl
  constructor
  · intro h
    obtain ⟨hpathu, hqueryu⟩ := first_marked (hpath hu) u.query.toList
    obtain ⟨hpathv, hqueryv⟩ := first_marked (hpath hv) v.query.toList
    rw [← htext, h, htext] at hpathu hqueryu
    exact ⟨String.toList_inj.mp (hpathu.symm.trans hpathv),
      String.toList_inj.mp (hqueryu.symm.trans hqueryv)⟩
  · rintro ⟨hp, hq⟩
    rw [target, target, hp, hq]

end Url

namespace Cache

open Url

variable {s t : String} {u v : Url} {host k : List Char} {n m : Nat}

def hostText (scheme : String) (host : List Char) (n : Nat) : List Char :=
  if defaultPort? scheme = some n then host
  else host ++ '_' :: 'P' :: 'O' :: 'R' :: 'T' :: Authority.natText n

theorem hostDirectory_eq [HostNames] (hu : Url.verbatim s = .ok u) (h : u.Addresses host n) :
    hostDirectory u = .ok (String.ofList (hostText u.scheme host n)) := by
  unfold hostDirectory
  simp only [h.host, h.portNumber, isDefaultPort_of_addresses hu h, bind, Except.bind, pure,
    Except.pure, hostText]
  by_cases hdefault : defaultPort? u.scheme = some n
  · simp [hdefault]
  · have htext : String.ofList host ++ "_PORT" ++ toString n =
        String.ofList (host ++ '_' :: 'P' :: 'O' :: 'R' :: 'T' :: Authority.natText n) := by
      apply String.toList_inj.mp
      simp [Authority.natText]
    simp only [hdefault, decide_false, Bool.false_eq_true, if_false]
    exact congrArg Except.ok htext

theorem isName_hostText [HostNames] (hu : Url.verbatim s = .ok u) (h : u.Addresses host n)
    (hc : IsCanonicalHost host) : PosixPath.IsName (hostText u.scheme host n) := by
  have hslash : '/' ∉ host := notMem_slash_of_addresses hu h
  unfold hostText
  split
  · have hproper : PosixPath.isProper host = true := by
      simp [PosixPath.isProper, hc.nonempty, hc.notDot]
    exact ⟨⟨hproper, hslash⟩, hc.notDots⟩
  · have hnumber : '/' ∉ Authority.natText n := fun hm =>
      absurd (Authority.isDigit_natText n hm) (by decide)
    have hletter : 'P' ∈ host ++ '_' :: 'P' :: 'O' :: 'R' :: 'T' :: Authority.natText n := by simp
    refine ⟨⟨?_, by simp [hslash, hnumber]⟩, fun hdots => ?_⟩
    · have hdot : host ++ '_' :: 'P' :: 'O' :: 'R' :: 'T' :: Authority.natText n ≠ ['.'] := by
        intro hdot
        rw [hdot] at hletter
        exact absurd hletter (by decide)
      simp [PosixPath.isProper, hdot]
    · rw [hdots] at hletter
      exact absurd hletter (by decide)

theorem hostText_injective {scheme : String} (hh : IsCanonicalHost host) (hk : IsCanonicalHost k)
    (h : hostText scheme host n = hostText scheme k m) : host = k ∧ n = m := by
  have hletter {host : List Char} (hh : IsCanonicalHost host) : 'P' ∉ host := fun hm =>
    absurd (hh.lower 'P' hm) (by decide)
  -- the number stands behind the first capital letter
  have hcut {host : List Char} (hh : IsCanonicalHost host) (n : Nat) :
      Cut.first 'P' (host ++ '_' :: 'P' :: 'O' :: 'R' :: 'T' :: Authority.natText n) =
        (host ++ ['_'], some ('O' :: 'R' :: 'T' :: Authority.natText n)) := by
    have hno : 'P' ∉ host ++ ['_'] := by simp [hletter hh]
    have hsplit := Cut.first_append hno ('O' :: 'R' :: 'T' :: Authority.natText n)
    rwa [List.append_assoc] at hsplit
  unfold hostText at h
  split at h <;> split at h
  · next hn hm => exact ⟨h, Option.some.inj (hn.symm.trans hm)⟩
  · refine absurd ?_ (hletter hh)
    rw [h]
    simp
  · refine absurd ?_ (hletter hk)
    rw [← h]
    simp
  · have hboth := congrArg (Cut.first 'P') h
    rw [hcut hh, hcut hk] at hboth
    obtain ⟨hhosts, hnumbers⟩ := Prod.mk.inj hboth
    have hdigits : Authority.natText n = Authority.natText m := by simpa using hnumbers
    exact ⟨List.append_cancel_right hhosts, Authority.natText_injective hdigits⟩

theorem isSegment_fileName (u : Url) : PosixPath.IsSegment (fileName u).toList := by
  rw [fileName, String.toList_ofList]
  have hlength := Sha256.length_hex (Utf8.encodeString u.target)
  refine ⟨?_, fun hslash => absurd (Hex.mem_ofBytes hslash) (by decide)⟩
  have hnil : Sha256.hex (Utf8.encodeString u.target) ≠ [] := by
    intro hnil
    rw [hnil] at hlength
    cases hlength
  have hdot : Sha256.hex (Utf8.encodeString u.target) ≠ ['.'] := by
    intro hdot
    rw [hdot] at hlength
    cases hlength
  simp [PosixPath.isProper, hnil, hdot]

theorem path_eq [HostNames] (root : PosixPath) (hu : Url.verbatim s = .ok u)
    (h : u.Addresses host n)
    (hc : IsCanonicalHost host) : Cache.path root u = .ok ⟨root.root, root.parts ++
      ["deps", u.scheme, String.ofList (hostText u.scheme host n), fileName u]⟩ := by
  have hdeps : PosixPath.IsSegment "deps".toList := ⟨by decide, by decide⟩
  have hscheme : PosixPath.IsSegment u.scheme.toList := by
    have hall : ∀ scheme ∈ Fetch.remoteSchemes, PosixPath.isProper scheme.toList = true ∧
      '/' ∉ scheme.toList := by decide
    exact hall _ h.scheme
  have hhost : PosixPath.IsSegment (String.ofList (hostText u.scheme host n)).toList := by
    rw [String.toList_ofList]
    exact (isName_hostText hu h hc).1
  rw [Cache.path, hostDirectory_eq hu h]
  simp only [bind, Except.bind, pure, Except.pure, PosixPath.append_segment _ hdeps,
    PosixPath.append_segment _ hscheme, PosixPath.append_segment _ hhost,
    PosixPath.append_segment _ (isSegment_fileName u), List.append_assoc, List.cons_append,
    List.nil_append]

def IsEntry (root : PosixPath) (scheme : String) (p : PosixPath) : Prop :=
  ∃ directory digits, p = ⟨root.root, root.parts ++ ["deps", scheme, directory, digits]⟩ ∧
    PosixPath.IsName directory.toList ∧ digits.toList.length = 64 ∧
    ∀ c ∈ digits.toList, c ∈ "0123456789abcdef".toList

/-- The files of two addresses are one file for what has to be shared, and two for all else. -/
structure KeepsApart (u v : Url) (host k : List Char) (n m : Nat) (p q : PosixPath) : Prop where
  same : p = q ↔ u.scheme = v.scheme ∧ host = k ∧ n = m ∧
    Sha256.digest (Utf8.encodeString u.target) = Sha256.digest (Utf8.encodeString v.target)
  target : u.target = v.target ↔ u.rawPath = v.rawPath ∧ u.query = v.query
  shared : u.scheme = v.scheme → host = k → n = m → u.rawPath = v.rawPath → u.query = v.query →
    p = q

theorem isEntry_path [HostNames] (root : PosixPath) (hu : Url.verbatim s = .ok u)
    (h : u.Addresses host n)
    (hc : IsCanonicalHost host) : IsEntry root u.scheme ⟨root.root, root.parts ++
      ["deps", u.scheme, String.ofList (hostText u.scheme host n), fileName u]⟩ := by
  refine ⟨_, _, rfl, ?_, ?_, ?_⟩
  · rw [String.toList_ofList]
    exact isName_hostText hu h hc
  · rw [fileName, String.toList_ofList]
    exact Sha256.length_hex _
  · rw [fileName, String.toList_ofList]
    exact fun c hm => Hex.mem_ofBytes hm

theorem keepsApart_path [HostNames] (root : PosixPath) (hu : Url.verbatim s = .ok u)
    (hv : Url.verbatim t = .ok v) (hau : u.Addresses host n) (hav : v.Addresses k m)
    (hh : IsCanonicalHost host) (hk : IsCanonicalHost k) :
    ∃ p q, Cache.path root u = .ok p ∧ Cache.path root v = .ok q ∧
      KeepsApart u v host k n m p q ∧ IsEntry root u.scheme p ∧ IsEntry root v.scheme q := by
  refine ⟨_, _, path_eq root hu hau hh, path_eq root hv hav hk, ?_,
    isEntry_path root hu hau hh, isEntry_path root hv hav hk⟩
  have hsame (h : u.scheme = v.scheme ∧ host = k ∧ n = m ∧
      Sha256.digest (Utf8.encodeString u.target) = Sha256.digest (Utf8.encodeString v.target)) :
      (⟨root.root, root.parts ++
        ["deps", u.scheme, String.ofList (hostText u.scheme host n), fileName u]⟩ : PosixPath) =
      ⟨root.root, root.parts ++
        ["deps", v.scheme, String.ofList (hostText v.scheme k m), fileName v]⟩ := by
    obtain ⟨hscheme, rfl, rfl, hdigest⟩ := h
    have hname : fileName u = fileName v := congrArg String.ofList (Sha256.hex_eq_iff.mpr hdigest)
    rw [hscheme, hname]
  have htarget := target_eq_iff hu hv
  constructor
  · refine ⟨fun h => ?_, hsame⟩
    obtain ⟨-, hparts⟩ := PosixPath.mk.inj h
    -- scheme, host and digest are names of their own in the path
    obtain ⟨hscheme, hdirectory, hname⟩ : u.scheme = v.scheme ∧
        String.ofList (hostText u.scheme host n) = String.ofList (hostText v.scheme k m) ∧
        fileName u = fileName v := by
      simpa using List.append_cancel_left hparts
    rw [hscheme] at hdirectory
    obtain ⟨hhosts, hnumbers⟩ := hostText_injective hh hk (String.ofList_injective hdirectory)
    have hdigits : Sha256.hex (Utf8.encodeString u.target) =
        Sha256.hex (Utf8.encodeString v.target) := String.ofList_injective hname
    exact ⟨hscheme, hhosts, hnumbers, Sha256.hex_eq_iff.mp hdigits⟩
  · exact htarget
  · intro hscheme hhosts hnumbers hpath hquery
    have htargets := htarget.mpr ⟨hpath, hquery⟩
    exact hsame ⟨hscheme, hhosts, hnumbers, by rw [htargets]⟩

theorem shared_path : ∃ u v p, Url.verbatim "https://h/mod.ts" = .ok u ∧
    Url.verbatim "https://me@h:443/mod.ts#top" = .ok v ∧
    Cache.path (.ofString "/cache") u = .ok p ∧ Cache.path (.ofString "/cache") v = .ok p := by
  let u : Url := ⟨"https", "h", "/mod.ts", "", "", none⟩
  let v : Url := ⟨"https", "me@h:443", "/mod.ts", "", "top", none⟩
  have hu : Url.verbatim "https://h/mod.ts" = .ok u := Location.ok_of_toOption (by decide +kernel)
  have hv : Url.verbatim "https://me@h:443/mod.ts#top" = .ok v :=
    Location.ok_of_toOption (by decide +kernel)
  have hau : u.Addresses ['h'] 443 := ⟨by decide, Location.ok_of_toOption (by decide +kernel),
    Location.ok_of_toOption (by decide +kernel)⟩
  have hav : v.Addresses ['h'] 443 := ⟨by decide, Location.ok_of_toOption (by decide +kernel),
    Location.ok_of_toOption (by decide +kernel)⟩
  have hcanonical : IsCanonicalHost ['h'] :=
    ⟨by decide, forall_mem_of_all (by decide), by decide, by decide⟩
  obtain ⟨p, q, hp, hq, hkeeps, -⟩ :=
    keepsApart_path (.ofString "/cache") hu hv hau hav hcanonical hcanonical
  have hsame : p = q := hkeeps.shared rfl rfl rfl (by decide) rfl
  exact ⟨u, v, p, hu, hv, hp, hsame ▸ hq⟩

end Cache

end EmitBridge

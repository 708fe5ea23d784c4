import EmitBridge.Proofs.FilePath.Drive
import EmitBridge.Proofs.Location.Closed

/-! The address that a text comes to can be written as text again. Only an address that was handed
over part by part can hold a service number that nobody has read. -/

namespace EmitBridge

namespace Authority

theorem read_of_notMem {s : List Char} (hport : ':' ∉ s) (huser : '@' ∉ s) (hhost : '[' ∉ s) :
    read s = .ok ⟨none, none, nonEmpty s, none⟩ := by
  have hbracket : s.contains '[' = false := by simpa using hhost
  have hsplit : splitHost s = (s, []) := by
    rw [splitHost, hbracket, Cut.first_of_notMem hport]
    rfl
  rw [read_eq, Cut.last_of_notMem huser, hsplit]
  rfl

end Authority

namespace FilePath

theorem parts_of_toUri? [HostNames] {p : FilePath} (hp : p.IsRead) {uri : List Char}
    (h : p.toUri? = some uri) {u : Url} (hu : Url.verbatimChars uri = .ok u) :
    ∃ a, u.parts = .ok a := by
  obtain ⟨s, rfl | rfl⟩ := hp
  · obtain ⟨hslash, rfl⟩ := PosixPath.toUri?_ofChars h
    rw [PosixPath.verbatimChars_file hslash] at hu
    cases hu
    exact ⟨_, rfl⟩
  · have habs := Win32Path.isAbsolute_of_toUri? h
    obtain ⟨hroot, ⟨c, hc, hd⟩ | ⟨rest, hd⟩⟩ := Win32Path.letter_or_server habs
    · rw [Win32Path.toUri?_of_letter hd h, Win32Path.verbatimChars_letter hc] at hu
      cases hu
      exact ⟨_, rfl⟩
    · obtain ⟨server, tail, hchars, hno⟩ := Win32Path.toPosixChars_of_server hd hroot
      rw [Win32Path.toUri?_of_server hd h, hchars, Win32Path.verbatimChars_server hno] at hu
      cases hu
      have hne {d : Char} (hd : PosixPath.isUriPlain d = false ∧ d ≠ '%' ∧ d.isAlphanum = false) :
          d ∉ Percent.encode PosixPath.isUriPlain server := fun hm =>
        PosixPath.ne_of_mem_encode hm ⟨.inl hd.1, hd.2⟩ rfl
      let written := Percent.encode PosixPath.isUriPlain server
      refine ⟨⟨none, none, Authority.nonEmpty written, none⟩, ?_⟩
      rw [Url.parts, String.toList_ofList]
      exact Authority.read_of_notMem (hne (by decide)) (hne (by decide)) (hne (by decide))

end FilePath

namespace Location

open Url

theorem exists_parts_of_parse [HostNames] {s : String} {u : Url} (h : schemedUrl? s = some u) :
    ∃ a, u.parts = .ok a := by
  obtain ⟨v, k, hv, -, hk, rfl⟩ := normalized_of_schemedUrl? h
  exact ⟨k.2, (hasParts_normalized (checked_of_verbatim hv) (separated_of_verbatim hv) hk).2.parts⟩

theorem exists_parts_of_path [HostNames] {cwd : PosixPath} {base : Option Value} {s : List Char}
    {u : Url} (h : pathToUrl cwd base s = .ok u) : ∃ a, u.parts = .ok a := by
  obtain ⟨p, uri, hp, huri, hu⟩ := pathToUrl_eq_ok h
  exact FilePath.parts_of_toUri? (isRead_of_namedPath hp) huri hu

theorem exists_render_of_text [HostNames] {cwd : PosixPath} {base : Option Value} {s : String}
    {u : Url} (h : textToUrl cwd base s = .ok u) : ∃ t, u.render = .ok t := by
  apply (exists_render_iff u).mpr
  cases textRoute_of_textToUrl h with
  | path hpath => exact exists_parts_of_path hpath
  | spelled hparse _ => exact exists_parts_of_parse hparse

end Location

end EmitBridge

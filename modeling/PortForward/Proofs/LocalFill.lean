/-
# Empty local fields

An empty local field stands for the local ports that the remote field gives, and the operator is shown
them as a text. To write this text out is the same as to leave the field empty, also where the remote
field is wrong; and an empty local field is never what is wrong.

* `RemoteField.isList_localFill` : the text that is shown is a list of the ports that are meant;
* `localPorts_fill` : so the field gives the same ports with it and without;
* `empty_local_field` : what this comes to for the fields of the dialog.
-/
import PortForward.Proofs.FieldGrammar

namespace PortForward.Fields

open Text (trim)

variable {s : List Char} {r : Remote}

/-! ## The text that is shown -/

/-- Blanks around the remote field make no difference to the text that is shown. -/
theorem localFill_trim (s : List Char) : localFill (trim s) = localFill s := by
  rw [localFill, localFill, Text.trim_trim]

/-- The text that is shown has no blanks around it. -/
theorem trim_localFill (s : List Char) : trim (localFill s) = localFill s := by
  rw [localFill]
  split
  · exact Text.trim_trim _
  · split
    · exact Text.trim_trim s
    · rfl

/-- The text that is shown for a remote field is a list of the local ports that the field gives. -/
theorem RemoteField.isList_localFill {remotes mirrored : List UInt16} (htrim : trim s = s)
    (h : RemoteField s remotes mirrored) : IsList IsPort (localFill s) mirrored := by
  cases h with
  | list hcut h =>
    obtain ⟨hnumbers, hports⟩ := isList_plain_iff.mp h
    rw [localFill_uncut htrim (Text.cutLast_eq_none_iff.mpr hcut) hnumbers]
    exact hports
  | pair hlast _ _ _ _ hq =>
    rw [localFill_cut htrim (hlast.cutLast _)]
    exact hq.isList
  | named hlast _ _ _ hq =>
    rw [localFill_cut htrim (hlast.cutLast _)]
    exact hq.isList

/-- A remote field gives as many local ports as container ports. -/
theorem RemoteField.length_eq {remotes mirrored : List UInt16} (h : RemoteField s remotes mirrored) :
    mirrored.length = remotes.length := by
  cases h <;> rfl

/-- Where the remote field is accepted, an empty local field gives as many local ports as there are
container ports, and the text that is shown lists them. -/
theorem localPorts_fill (htrim : trim s = s) (h : Remote.read s = .ok r) :
    ∃ locals, localPorts s r [] = .ok locals ∧ localPorts s r (localFill s) = .ok locals ∧
      localFill s ≠ [] ∧ locals.length = r.ports.length := by
  obtain ⟨mirrored, hfield, hempty⟩ := remoteField_of_read htrim h
  have hlist := hfield.isList_localFill htrim
  refine ⟨mirrored, hempty, (localPorts_eq_ok_iff hempty).mpr ?_, hlist.ne_nil, hfield.length_eq⟩
  rw [if_neg hlist.ne_nil]
  exact hlist

/-! ## The fields of the dialog -/

section Dialog

variable (address remote defaultAddress : String)

/-- An empty local field and the text that is shown for it are read alike where the remote field is
accepted, and nothing is wrong with them. -/
theorem read_of_ok (h : Remote.read (trim remote.toList) = .ok r) :
    ∃ ts, read ⟨address, remote, "", defaultAddress⟩ = .ok ts ∧
      read ⟨address, remote, extractPort remote, defaultAddress⟩ = .ok ts := by
  obtain ⟨locals, hempty, hfill, -, hlength⟩ := localPorts_fill (Text.trim_trim _) h
  rw [localFill_trim, ← trim_localFill, ← String.toList_ofList (l := localFill _)] at hfill
  exact ⟨_, read_steps.mpr ⟨r, locals, h, hempty, hlength, rfl⟩,
    read_steps.mpr ⟨r, locals, h, hfill, hlength, rfl⟩⟩

/-- What is wrong with a remote field is found before anybody looks at the local field. -/
theorem read_of_error {localText : String} {cause : Invalid}
    (h : Remote.read (trim remote.toList) = .error cause) :
    read ⟨address, remote, localText, defaultAddress⟩ =
      .error (if trim remote.toList = [] then .noRemote else cause) := by
  rw [read]
  dsimp only
  rw [h]
  split <;> rfl

/-- An empty local field and the text that is shown for it mean the same, whatever the other fields
are. With an empty local field, all is accepted exactly if the remote field is: then the text that is
shown is not empty, and the local ports it stands for are valid and as many as the container ports. So
whatever is wrong is wrong with the remote field, which is blank or is refused by its reader. -/
theorem empty_local_field :
    tunnels ⟨address, remote, "", defaultAddress⟩ =
        tunnels ⟨address, remote, extractPort remote, defaultAddress⟩ ∧
      ((∃ ts, tunnels ⟨address, remote, "", defaultAddress⟩ = .ok ts) ↔
        ∃ r, Remote.read (trim remote.toList) = .ok r) ∧
      (∀ r, Remote.read (trim remote.toList) = .ok r → extractPort remote ≠ "" ∧
        ∃ locals, localPorts (trim remote.toList) r [] = .ok locals ∧
          locals.length = r.ports.length) ∧
      ∀ e, tunnels ⟨address, remote, "", defaultAddress⟩ = .error e →
        ∃ cause, Remote.read (trim remote.toList) = .error cause ∧
          e = .invalid (if trim remote.toList = [] then .noRemote else cause) := by
  cases h : Remote.read (trim remote.toList) with
  | error cause =>
    have hread := fun text => @read_of_error address remote defaultAddress text cause h
    simp only [tunnels, hread, Except.mapError]
    refine ⟨trivial, iff_of_false ?_ ?_, ?_, fun e he => ⟨cause, rfl, (Except.error.inj he).symm⟩⟩
    · rintro ⟨ts, hts⟩
      cases hts
    · rintro ⟨r, hr⟩
      cases hr
    · rintro r hr
      cases hr
  | ok r =>
    obtain ⟨ts, hempty, hfill⟩ := read_of_ok address remote defaultAddress h
    obtain ⟨locals, hlocals, -, hshown, hlength⟩ := localPorts_fill (Text.trim_trim _) h
    rw [localFill_trim] at hshown
    simp only [tunnels, hempty, hfill, Except.mapError]
    refine ⟨trivial, iff_of_true ⟨ts, rfl⟩ ⟨r, rfl⟩, ?_, ?_⟩
    · rintro _ hr
      cases hr
      refine ⟨fun hnone => hshown ?_, locals, hlocals, hlength⟩
      simpa [extractPort] using hnone
    · rintro e he
      cases he

end Dialog

/-- A port is shown as it is written, without the blanks; a list that is not all numbers shows
nothing. -/
example : extractPort " web::+080 " = "+080" ∧ extractPort "80, 443" = "80, 443" ∧
    extractPort "80,web" = "" := by decide

end PortForward.Fields

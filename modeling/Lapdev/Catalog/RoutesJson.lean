import Lapdev.Sidecar.RoutingTable

/-!
# Port routes as JSON

The text that `serde_json::to_string` gives to a list of port routes, which the sidecar container
carries in an environment variable. `routesJson_injective`: the text determines the routes.
-/

namespace Lapdev

/-- A number in decimal. -/
def decimal (n : Nat) : List Char := Nat.toDigits 10 n

/-- The JSON object of a route. -/
def routeJson (route : ProxyPortRoute) : List Char :=
  '\x7b' :: ("\"proxy_port\":".toList ++ (decimal route.proxyPort.toNat ++
    ',' :: ("\"service_port\":".toList ++ (decimal route.servicePort.toNat ++
      ',' :: ("\"target_port\":".toList ++ (decimal route.targetPort.toNat ++ ['\x7d']))))))

/-- The items of a JSON array. -/
def routesJsonItems : List ProxyPortRoute → List Char
  | [] => [']']
  | [route] => routeJson route ++ [']']
  | route :: routes => routeJson route ++ ',' :: routesJsonItems routes

/-- `serde_json::to_string(&routes)`. -/
def routesJson (routes : List ProxyPortRoute) : String := String.ofList ('[' :: routesJsonItems routes)

/-! ## The text determines the routes -/

theorem isDigit_of_mem_decimal {n : Nat} {c : Char} (h : c ∈ decimal n) : c.isDigit = true :=
  Nat.isDigit_of_mem_toDigits (by decide) (by decide) h

theorem decimal_injective {n m : Nat} (h : decimal n = decimal m) : n = m := by
  rw [← Nat.ofDigitChars_toDigits (b := 10) (n := n) (by decide) (by decide),
    ← Nat.ofDigitChars_toDigits (b := 10) (n := m) (by decide) (by decide)]
  exact congrArg (Nat.ofDigitChars 10 · 0) h

/-- Two lists of digits that a character other than a digit ends are equal, with what follows. -/
theorem digits_append_cancel {l l' rest rest' : List Char} {c c' : Char}
    (hl : ∀ d ∈ l, d.isDigit = true) (hl' : ∀ d ∈ l', d.isDigit = true)
    (hc : c.isDigit = false) (hc' : c'.isDigit = false) (h : l ++ c :: rest = l' ++ c' :: rest') :
    l = l' ∧ c :: rest = c' :: rest' := by
  induction l generalizing l' with
  | nil =>
    cases l' with
    | nil => exact ⟨rfl, h⟩
    | cons d l' =>
      have hd := hl' d List.mem_cons_self
      rw [List.nil_append, List.cons_append, List.cons.injEq] at h
      rw [← h.1, hc] at hd
      cases hd
  | cons d l ih =>
    have hd := hl d List.mem_cons_self
    cases l' with
    | nil =>
      rw [List.nil_append, List.cons_append, List.cons.injEq] at h
      rw [h.1, hc'] at hd
      cases hd
    | cons d' l' =>
      rw [List.cons_append, List.cons_append, List.cons.injEq] at h
      obtain ⟨rfl, heq⟩ := ih (fun x hx => hl x (List.mem_cons_of_mem _ hx))
        (fun x hx => hl' x (List.mem_cons_of_mem _ hx)) h.2
      exact ⟨by rw [h.1], heq⟩

/-- A number that a character other than a digit ends is read back, with what follows. -/
theorem decimal_append_cancel {n m : Nat} {rest rest' : List Char} {c c' : Char}
    (hc : c.isDigit = false) (hc' : c'.isDigit = false)
    (h : decimal n ++ c :: rest = decimal m ++ c' :: rest') : n = m ∧ c :: rest = c' :: rest' := by
  obtain ⟨hdigits, hrest⟩ := digits_append_cancel (fun _ => isDigit_of_mem_decimal)
    (fun _ => isDigit_of_mem_decimal) hc hc' h
  exact ⟨decimal_injective hdigits, hrest⟩

/-- A route at the front of a text is read back, with what follows. -/
theorem routeJson_append_cancel {route route' : ProxyPortRoute} {rest rest' : List Char}
    (h : routeJson route ++ rest = routeJson route' ++ rest') : route = route' ∧ rest = rest' := by
  simp only [routeJson, List.append_assoc, List.cons_append, List.nil_append] at h
  have h₁ := List.append_cancel_left (List.cons.inj h).2
  obtain ⟨hproxy, h₂⟩ := decimal_append_cancel rfl rfl h₁
  have h₃ := List.append_cancel_left (List.cons.inj h₂).2
  obtain ⟨hservice, h₄⟩ := decimal_append_cancel rfl rfl h₃
  have h₅ := List.append_cancel_left (List.cons.inj h₄).2
  obtain ⟨htarget, h₆⟩ := decimal_append_cancel rfl rfl h₅
  refine ⟨?_, (List.cons.inj h₆).2⟩
  cases route
  cases route'
  simp only [UInt16.toNat_inj] at hproxy hservice htarget
  rw [hproxy, hservice, htarget]

/-- A route starts with a brace. -/
theorem routeJson_ne_bracket {route : ProxyPortRoute} {rest : List Char} :
    routeJson route ++ rest ≠ [']'] := by
  intro h
  have hhead : (routeJson route ++ rest).head? = some '\x7b' := rfl
  rw [h] at hhead
  cases hhead

theorem routesJsonItems_injective {routes routes' : List ProxyPortRoute}
    (h : routesJsonItems routes = routesJsonItems routes') : routes = routes' := by
  induction routes generalizing routes' with
  | nil =>
    match routes', h with
    | [], _ => rfl
    | [_], h => exact absurd h.symm routeJson_ne_bracket
    | _ :: _ :: _, h => exact absurd h.symm routeJson_ne_bracket
  | cons route routes ih =>
    match routes, routes', h with
    | [], [], h => exact absurd h routeJson_ne_bracket
    | [], [_], h => rw [(routeJson_append_cancel h).1]
    | [], _ :: _ :: _, h => exact absurd (routeJson_append_cancel h).2 (by simp)
    | _ :: _, [], h => exact absurd h routeJson_ne_bracket
    | _ :: _, [_], h => exact absurd (routeJson_append_cancel h).2 (by simp)
    | _ :: _, _ :: _ :: _, h =>
      obtain ⟨hroute, hrest⟩ := routeJson_append_cancel h
      rw [hroute, ih (List.cons.inj hrest).2]

/-- The text determines the routes. -/
theorem routesJson_injective : Function.Injective routesJson := by
  intro routes routes' h
  exact routesJsonItems_injective (List.cons.inj (String.ofList_injective h)).2

example : routesJson [⟨26001, 80, 8080⟩, ⟨26002, 443, 8443⟩] =
    "[\x7b\"proxy_port\":26001,\"service_port\":80,\"target_port\":8080\x7d," ++
      "\x7b\"proxy_port\":26002,\"service_port\":443,\"target_port\":8443\x7d]" := by decide

end Lapdev

/-!
# The text of the script

The script that the proxy runs on every request and response.  Nine values are left open: their
names stand in double braces.
-/

namespace LoginGate.Filter

def scriptTemplateLines : List String := [
  "-- Request classification for the OAuth2 filter.",
  "--",
  "-- Requests matching an ignore rule (and no require rule) get the bypass",
  "-- header so the OAuth2 filter lets them through without a session. Requests",
  "-- matching a deny-redirect rule get a 401 instead of a login redirect.",
  "",
  "local ignore_rules = \x7b\x7bignore_rules\x7d\x7d",
  "local require_rules = \x7b\x7brequire_rules\x7d\x7d",
  "local deny_redirect_rules = \x7b\x7bdeny_redirect_rules\x7d\x7d",
  "",
  "local authorize_endpoint = \x7b\x7bauthorize_endpoint\x7d\x7d",
  "local login_params = \x7b\x7blogin_params\x7d\x7d",
  "local end_session_endpoint = \x7b\x7bend_session_endpoint\x7d\x7d",
  "local post_logout_redirect_uri = \x7b\x7bpost_logout_redirect_uri\x7d\x7d",
  "",
  "local bypass_header = \x7b\x7bbypass_header\x7d\x7d",
  "local deny_redirect_header = \x7b\x7bdeny_redirect_header\x7d\x7d",
  "",
  "local function strip_query(path)",
  "  local q = string.find(path, \"?\", 1, true)",
  "  if q then",
  "    return string.sub(path, 1, q - 1)",
  "  end",
  "  return path",
  "end",
  "",
  "local function matches(rules, path, method)",
  "  for _, rule in ipairs(rules) do",
  "    if string.match(path, rule.regex) then",
  "      if next(rule.methods) == nil or rule.methods[method] then",
  "        return true",
  "      end",
  "    end",
  "  end",
  "  return false",
  "end",
  "",
  "local function starts_with(value, prefix)",
  "  return prefix ~= \"\" and string.sub(value, 1, #prefix) == prefix",
  "end",
  "",
  "local function append_query(location, key, value)",
  "  local sep = \"&\"",
  "  if not string.find(location, \"?\", 1, true) then",
  "    sep = \"?\"",
  "  end",
  "  return location .. sep .. key .. \"=\" .. value",
  "end",
  "",
  "local function with_login_params(location)",
  "  local keys = \x7b\x7d",
  "  for key in pairs(login_params) do",
  "    table.insert(keys, key)",
  "  end",
  "  table.sort(keys)",
  "  for _, key in ipairs(keys) do",
  "    local present = string.find(location, \"?\" .. key .. \"=\", 1, true)",
  "      or string.find(location, \"&\" .. key .. \"=\", 1, true)",
  "    if not present then",
  "      location = append_query(location, key, login_params[key])",
  "    end",
  "  end",
  "  return location",
  "end",
  "",
  "-- The OAuth2 filter clears its cookies when signing out.",
  "local function is_signout_response(headers)",
  "  local cookie = headers:get(\"set-cookie\") or \"\"",
  "  return string.find(cookie, \"=deleted;\", 1, true) ~= nil",
  "end",
  "",
  "function envoy_on_request(request_handle)",
  "  local headers = request_handle:headers()",
  "  -- Never trust these from the client.",
  "  headers:remove(bypass_header)",
  "  headers:remove(deny_redirect_header)",
  "",
  "  local path = strip_query(headers:get(\":path\") or \"\")",
  "  local method = headers:get(\":method\") or \"\"",
  "",
  "  if matches(deny_redirect_rules, path, method) then",
  "    headers:replace(deny_redirect_header, \"true\")",
  "  end",
  "",
  "  if matches(ignore_rules, path, method) and not matches(require_rules, path, method) then",
  "    headers:replace(bypass_header, \"true\")",
  "  end",
  "end",
  "",
  "function envoy_on_response(response_handle)",
  "  local headers = response_handle:headers()",
  "  if headers:get(\":status\") ~= \"302\" then",
  "    return",
  "  end",
  "",
  "  local location = headers:get(\"location\")",
  "  if location == nil then",
  "    return",
  "  end",
  "",
  "  if starts_with(location, authorize_endpoint) then",
  "    headers:replace(\"location\", with_login_params(location))",
  "    return",
  "  end",
  "",
  "  if end_session_endpoint == \"\" then",
  "    return",
  "  end",
  "  if starts_with(location, end_session_endpoint) or is_signout_response(headers) then",
  "    local target = location",
  "    if not starts_with(location, end_session_endpoint) then",
  "      target = end_session_endpoint",
  "    end",
  "    if post_logout_redirect_uri ~= \"\" " ++
    "and not string.find(target, \"[?&]post_logout_redirect_uri=\") then",
  "      target = append_query(target, \"post_logout_redirect_uri\", post_logout_redirect_uri)",
  "    end",
  "    headers:replace(\"location\", target)",
  "  end",
  "end"]

/-- The script with its open values. -/
def scriptTemplate : String := "\n".intercalate scriptTemplateLines ++ "\n"

end LoginGate.Filter

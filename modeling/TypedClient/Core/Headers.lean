import TypedClient.Core.Page

/-! The headers of a request. -/

namespace TypedClient.Core

/-- The headers, for a library of observables. -/
def observableHeaders : Lines := [
    "export const getHeaders = (config: OpenAPIConfig, options: ApiRequestOptions): Observable<HttpHeaders> => «",
    "    return forkJoin(«",
    "        token: resolve(options, config.TOKEN),",
    "        username: resolve(options, config.USERNAME),",
    "        password: resolve(options, config.PASSWORD),",
    "        additionalHeaders: resolve(options, config.HEADERS),",
    "    »).pipe(",
    "        map((« token, username, password, additionalHeaders ») => «",
    "            const headers = Object.entries(«",
    "                Accept: 'application/json',",
    "                ...additionalHeaders,",
    "                ...options.headers,",
    "            »)",
    "                .filter(([, value]) => value !== undefined && value !== null)",
    "                .reduce((headers, [key, value]) => («",
    "                    ...headers,",
    "                    [key]: String(value),",
    "                »), «» as Record<string, string>);",
    "",
    "            if (isStringWithValue(token)) «",
    "                headers['Authorization'] = `Bearer $«token»`;",
    "            »",
    "",
    "            if (isStringWithValue(username) && isStringWithValue(password)) «",
    "                const credentials = base64(`$«username»:$«password»`);",
    "                headers['Authorization'] = `Basic $«credentials»`;",
    "            »",
    "",
    "            if (options.body !== undefined) «",
    "                if (options.mediaType) «",
    "                    headers['Content-Type'] = options.mediaType;",
    "                » else if (isBlob(options.body)) «",
    "                    headers['Content-Type'] = options.body.type || 'application/octet-stream';",
    "                » else if (isString(options.body)) «",
    "                    headers['Content-Type'] = 'text/plain';",
    "                » else if (!isFormData(options.body)) «",
    "                    headers['Content-Type'] = 'application/json';",
    "                »",
    "            »",
    "",
    "            return new HttpHeaders(headers);",
    "        »),",
    "    );",
    "»;"]

/-- The headers, for a library of promises. -/
def promisedHeaders (client : ClientKind) : Lines :=
  let form := if client = .axios then ", formData?: FormData" else ""
  let kind := if client = .axios then "Record<string, string>" else "Headers"
  [
    "export const getHeaders = async (config: OpenAPIConfig, options: ApiRequestOptions" ++ form ++ "): Promise<" ++ kind ++ "> => «",
    "    const [token, username, password, additionalHeaders] = await Promise.all([",
    "        resolve(options, config.TOKEN),",
    "        resolve(options, config.USERNAME),",
    "        resolve(options, config.PASSWORD),",
    "        resolve(options, config.HEADERS),",
    "    ]);",
    ""]
  ++ (if client = .axios then [
      "    const formHeaders = typeof formData?.getHeaders === 'function' && formData?.getHeaders() || «»;",
      ""]
    else [])
  ++ [
    "    const headers = Object.entries(«",
    "        Accept: 'application/json',",
    "        ...additionalHeaders,",
    "        ...options.headers,"]
  ++ (if client = .axios then ["        ...formHeaders,"] else [])
  ++ [
    "    »)",
    "        .filter(([, value]) => value !== undefined && value !== null)",
    "        .reduce((headers, [key, value]) => («",
    "            ...headers,",
    "            [key]: String(value),",
    "        »), «» as Record<string, string>);",
    "",
    "    if (isStringWithValue(token)) «",
    "        headers['Authorization'] = `Bearer $«token»`;",
    "    »",
    "",
    "    if (isStringWithValue(username) && isStringWithValue(password)) «",
    "        const credentials = base64(`$«username»:$«password»`);",
    "        headers['Authorization'] = `Basic $«credentials»`;",
    "    »",
    "",
    "    if (options.body !== undefined) «",
    "        if (options.mediaType) «",
    "            headers['Content-Type'] = options.mediaType;",
    "        » else if (isBlob(options.body)) «",
    "            headers['Content-Type'] = options.body.type || 'application/octet-stream';",
    "        » else if (isString(options.body)) «",
    "            headers['Content-Type'] = 'text/plain';",
    "        » else if (!isFormData(options.body)) «",
    "            headers['Content-Type'] = 'application/json';",
    "        »",
    "    »",
    ""]
  ++ (if client = .axios then ["    return headers;"] else ["    return new Headers(headers);"])
  ++ ["»;"]

/-- The headers of a request. -/
def headers (client : ClientKind) : Lines :=
  if client = .angular then observableHeaders else promisedHeaders client

end TypedClient.Core

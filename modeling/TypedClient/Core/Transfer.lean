import TypedClient.Core.Page

/-! How a request is sent and its response is read. -/

namespace TypedClient.Core

/-- How an observable request is sent. -/
def observableSend : Lines := [
    "export const sendRequest = <T>(",
    "    config: OpenAPIConfig,",
    "    options: ApiRequestOptions,",
    "    http: HttpClient,",
    "    url: string,",
    "    body: unknown,",
    "    formData: FormData | undefined,",
    "    headers: HttpHeaders",
    "): Observable<HttpResponse<T>> => «",
    "    return http.request<T>(options.method, url, «",
    "        headers,",
    "        body: body ?? formData,",
    "        withCredentials: config.WITH_CREDENTIALS,",
    "        observe: 'response',",
    "    »);",
    "»;"]

/-- How a request is sent with axios. -/
def axiosSend : Lines := [
    "export const sendRequest = async <T>(",
    "    config: OpenAPIConfig,",
    "    options: ApiRequestOptions,",
    "    url: string,",
    "    body: unknown,",
    "    formData: FormData | undefined,",
    "    headers: Record<string, string>,",
    "    onCancel: OnCancel,",
    "    axiosClient: AxiosInstance",
    "): Promise<AxiosResponse<T>> => «",
    "    const controller = new AbortController();",
    "",
    "    let requestConfig: AxiosRequestConfig = «",
    "        data: body ?? formData,",
    "        headers,",
    "        method: options.method,",
    "        signal: controller.signal,",
    "        url,",
    "        withCredentials: config.WITH_CREDENTIALS,",
    "    »;",
    "",
    "    onCancel(() => controller.abort());",
    "",
    "    for (const fn of config.interceptors.request._fns) «",
    "        requestConfig = await fn(requestConfig);",
    "    »",
    "",
    "    try «",
    "        return await axiosClient.request(requestConfig);",
    "    » catch (error) «",
    "        const axiosError = error as AxiosError<T>;",
    "        if (axiosError.response) «",
    "            return axiosError.response;",
    "        »",
    "        throw error;",
    "    »",
    "»;"]

/-- How a request is sent with fetch. -/
def fetchSend : Lines := [
    "export const sendRequest = async (",
    "    config: OpenAPIConfig,",
    "    options: ApiRequestOptions,",
    "    url: string,",
    "    body: any,",
    "    formData: FormData | undefined,",
    "    headers: Headers,",
    "    onCancel: OnCancel",
    "): Promise<Response> => «",
    "    const controller = new AbortController();",
    "",
    "    let request: RequestInit = «",
    "        headers,",
    "        body: body ?? formData,",
    "        method: options.method,",
    "        signal: controller.signal,",
    "    »;",
    "",
    "    if (config.WITH_CREDENTIALS) «",
    "        request.credentials = config.CREDENTIALS;",
    "    »",
    "",
    "    for (const fn of config.interceptors.request._fns) «",
    "        request = await fn(request);",
    "    »",
    "",
    "    onCancel(() => controller.abort());",
    "",
    "    return await fetch(url, request);",
    "»;"]

/-- How a request is sent. -/
def send : ClientKind → Lines
  | .angular => observableSend
  | .axios => axiosSend
  | .fetch | .fastify => fetchSend

/-- How an observed response is read. -/
def observableReaders : Lines := [
    "export const getResponseHeader = <T>(response: HttpResponse<T>, responseHeader?: string): string | undefined => «",
    "    if (responseHeader) «",
    "        const value = response.headers.get(responseHeader);",
    "        if (isString(value)) «",
    "            return value;",
    "        »",
    "    »",
    "    return undefined;",
    "»;",
    "",
    "export const getResponseBody = <T>(response: HttpResponse<T>): T | undefined => «",
    "    if (response.status !== 204 && response.body !== null) «",
    "        return response.body;",
    "    »",
    "    return undefined;",
    "»;"]

/-- How a response of axios is read. -/
def axiosReaders : Lines := [
    "export const getResponseHeader = (response: AxiosResponse<unknown>, responseHeader?: string): string | undefined => «",
    "    if (responseHeader) «",
    "        const content = response.headers[responseHeader];",
    "        if (isString(content)) «",
    "            return content;",
    "        »",
    "    »",
    "    return undefined;",
    "»;",
    "",
    "export const getResponseBody = (response: AxiosResponse<unknown>): unknown => «",
    "    if (response.status !== 204) «",
    "        return response.data;",
    "    »",
    "    return undefined;",
    "»;"]

/-- How a response of fetch is read. -/
def fetchReaders : Lines := [
    "export const getResponseHeader = (response: Response, responseHeader?: string): string | undefined => «",
    "    if (responseHeader) «",
    "        const content = response.headers.get(responseHeader);",
    "        if (isString(content)) «",
    "            return content;",
    "        »",
    "    »",
    "    return undefined;",
    "»;",
    "",
    "export const getResponseBody = async (response: Response): Promise<unknown> => «",
    "    if (response.status !== 204) «",
    "        try «",
    "            const contentType = response.headers.get('Content-Type');",
    "            if (contentType) «",
    "                const binaryTypes = ['application/octet-stream', 'application/pdf', 'application/zip', 'audio/', 'image/', 'video/'];",
    "                if (contentType.includes('application/json') || contentType.includes('+json')) «",
    "                    return await response.json();",
    "                » else if (binaryTypes.some(type => contentType.includes(type))) «",
    "                    return await response.blob();",
    "                » else if (contentType.includes('multipart/form-data')) «",
    "                    return await response.formData();",
    "                » else if (contentType.includes('text/')) «",
    "                    return await response.text();",
    "                »",
    "            »",
    "        » catch (error) «",
    "            console.error(error);",
    "        »",
    "    »",
    "    return undefined;",
    "»;"]

/-- How a response is read. -/
def readers : ClientKind → Lines
  | .angular => observableReaders
  | .axios => axiosReaders
  | .fetch | .fastify => fetchReaders

/-- How a status becomes an error. -/
def statusErrors : Lines := [
    "export const catchErrorCodes = (options: ApiRequestOptions, result: ApiResult): void => «",
    "    const errors: Record<number, string> = «",
    "        400: 'Bad Request',",
    "        401: 'Unauthorized',",
    "        403: 'Forbidden',",
    "        404: 'Not Found',",
    "        500: 'Internal Server Error',",
    "        502: 'Bad Gateway',",
    "        503: 'Service Unavailable',",
    "        ...options.errors,",
    "    »;",
    "",
    "    const error = errors[result.status];",
    "    if (error) «",
    "        throw new ApiError(options, result, error);",
    "    »",
    "",
    "    if (!result.ok) «",
    "        const errorStatus = result.status ?? 'unknown';",
    "        const errorStatusText = result.statusText ?? 'unknown';",
    "        const errorBody = (() => «",
    "            try «",
    "                return JSON.stringify(result.body, null, 2);",
    "            » catch (e) «",
    "                return undefined;",
    "            »",
    "        »)();",
    "",
    "        throw new ApiError(options, result,",
    "            `Generic Error: status: $«errorStatus»; status text: $«errorStatusText»; body: $«errorBody»`",
    "        );",
    "    »",
    "»;"]

end TypedClient.Core

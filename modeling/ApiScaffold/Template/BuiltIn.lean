import ApiScaffold.Script.Request
import ApiScaffold.Script.Supertest
import ApiScaffold.Template.Basic

/-!
# Built-in templates

The texts of the templates that a set starts from, and what they become. A built-in template gives the
same text under every engine, which is given here line by line (`Script`), so that it can be reasoned
about without any template language. The texts themselves matter to an engine alone.
-/

namespace ApiScaffold

/-! ### Their texts -/

namespace TemplateName

/-- The text of the macros. -/
def macrosSource : String :=
  Script.text
    ["\x7b% macro assertion_setup(assertion) -%\x7d",
      "\x7b%- if assertion == \"expect\" -%\x7d",
      "var expect = chai.expect;",
      "\x7b%- elif assertion == \"assert\" -%\x7d",
      "var assert = chai.assert;",
      "\x7b%- else -%\x7d",
      "chai.should();",
      "\x7b%- endif -%\x7d",
      "\x7b%- endmacro assertion_setup %\x7d",
      "",
      "\x7b% macro assert_equal(actual, expected, assertion) -%\x7d",
      "\x7b%- if assertion == \"expect\" -%\x7d",
      "expect(\x7b\x7b actual \x7d\x7d).to.equal(\x7b\x7b expected \x7d\x7d);",
      "\x7b%- elif assertion == \"assert\" -%\x7d",
      "assert.equal(\x7b\x7b actual \x7d\x7d, \x7b\x7b expected \x7d\x7d);",
      "\x7b%- else -%\x7d",
      "\x7b\x7b actual \x7d\x7d.should.equal(\x7b\x7b expected \x7d\x7d);",
      "\x7b%- endif -%\x7d",
      "\x7b%- endmacro assert_equal %\x7d",
      "",
      "\x7b% macro status(d, assertion, subject) -%\x7d",
      "\x7b%- if d.is_default -%\x7d",
      "\x7b\x7b self::assert_equal(actual=subject, expected=\"'DEFAULT RESPONSE CODE HERE'\", assertion=assertion) \x7d\x7d",
      "\x7b%- else -%\x7d",
      "\x7b\x7b self::assert_equal(actual=subject, expected=d.response_code, assertion=assertion) \x7d\x7d",
      "\x7b%- endif -%\x7d",
      "\x7b%- endmacro status %\x7d",
      "",
      "\x7b% macro validate(d, assertion, subject) -%\x7d",
      "\x7b%- if d.has_schema and d.return_type == \"application/json\" -%\x7d",
      "\x7b%- if assertion == \"expect\" -%\x7d",
      "expect(validator.validate(\x7b\x7b subject \x7d\x7d, schema)).to.be.true;",
      "\x7b%- elif assertion == \"assert\" -%\x7d",
      "assert.isTrue(validator.validate(\x7b\x7b subject \x7d\x7d, schema));",
      "\x7b%- else -%\x7d",
      "validator.validate(\x7b\x7b subject \x7d\x7d, schema).should.be.true;",
      "\x7b%- endif -%\x7d",
      "\x7b%- else -%\x7d",
      "\x7b\x7b self::assert_equal(actual=subject, expected=\"null\", assertion=assertion) \x7d\x7d // non-json response or no schema",
      "\x7b%- endif -%\x7d",
      "\x7b%- endmacro validate %\x7d"]

/-- The text of the environment template. -/
def environmentSource : String :=
  Script.text
    ["\x7b% for name in block.env_vars -%\x7d",
      "\x7b\x7b name \x7d\x7d=",
      "\x7b% endfor -%\x7d"]

/-- The text of the path template for calls of `request`. -/
def requestPathSource : String :=
  Script.text
    ["\x7b% import \"macros.tera\" as m -%\x7d",
      "'use strict';",
      "var chai = require('chai');",
      "\x7b%- if block.flags.import_validator %\x7d",
      "var ZSchema = require('z-schema');",
      "var validator = new ZSchema(\x7b\x7d);",
      "\x7b%- endif %\x7d",
      "var request = require('request');",
      "\x7b%- if block.flags.import_load_test %\x7d",
      "var arete = require('arete');",
      "\x7b%- endif %\x7d",
      "",
      "\x7b\x7b m::assertion_setup(assertion=assertion) \x7d\x7d",
      "\x7b%- if block.flags.import_env %\x7d",
      "",
      "require('dotenv').load();",
      "\x7b%- endif %\x7d",
      "",
      "describe('\x7b\x7b block.path \x7d\x7d', function() \x7b",
      "\x7b%- for operation in block.operations %\x7d",
      "  describe('\x7b\x7b operation.method \x7d\x7d', function() \x7b",
      "\x7b%- for d in operation.tests %\x7d",
      "    it('should respond with \x7b\x7b d.summary | addslashes \x7d\x7d', function(done) \x7b",
      "\x7b%- if d.has_schema %\x7d",
      "      /*eslint-disable*/",
      "      var schema = \x7b\x7b d.schema | indent_lines(width=6) \x7d\x7d;",
      "",
      "      /*eslint-enable*/",
      "\x7b%- endif %\x7d",
      "      request(\x7b",
      "        url: \x7b\x7b d.request_path.code \x7d\x7d,",
      "\x7b%- if d.query_api_key or d.query_values | length > 0 %\x7d",
      "        qs: \x7b",
      "\x7b%- if d.query_api_key %\x7d",
      "          \x7b\x7b d.query_api_key.type \x7d\x7d: process.env.\x7b\x7b d.query_api_key.name \x7d\x7d,",
      "\x7b%- endif %\x7d",
      "\x7b%- for v in d.query_values %\x7d",
      "          '\x7b\x7b v.name \x7d\x7d': \x7b\x7b v.code \x7d\x7d,",
      "\x7b%- endfor %\x7d",
      "        \x7d,",
      "\x7b%- endif %\x7d",
      "        method: '\x7b\x7b operation.method | upper \x7d\x7d',",
      "        headers: \x7b",
      "          'Content-Type': '\x7b\x7b d.content_type \x7d\x7d',",
      "\x7b%- if d.header_security %\x7d",
      "          Authorization: '\x7b\x7b d.header_security.type \x7d\x7d ' + process.env.\x7b\x7b d.header_security.name \x7d\x7d,",
      "\x7b%- endif %\x7d",
      "\x7b%- if d.header_api_key %\x7d",
      "          '\x7b\x7b d.header_api_key.type \x7d\x7d': process.env.\x7b\x7b d.header_api_key.name \x7d\x7d,",
      "\x7b%- endif %\x7d",
      "\x7b%- for p in d.parameters.header %\x7d",
      "          '\x7b\x7b p.name \x7d\x7d': 'DATA GOES HERE',",
      "\x7b%- endfor %\x7d",
      "        \x7d,",
      "\x7b%- if d.parameters.form_data | length > 0 %\x7d",
      "        form: \x7b",
      "\x7b%- for p in d.parameters.form_data %\x7d",
      "          '\x7b\x7b p.name \x7d\x7d': 'DATA GOES HERE',",
      "\x7b%- endfor %\x7d",
      "        \x7d,",
      "\x7b%- endif %\x7d",
      "\x7b%- if d.body_values | length > 0 %\x7d",
      "        json: \x7b",
      "\x7b%- for v in d.body_values %\x7d",
      "          '\x7b\x7b v.name \x7d\x7d': \x7b\x7b v.code \x7d\x7d,",
      "\x7b%- endfor %\x7d",
      "        \x7d,",
      "\x7b%- endif %\x7d",
      "      \x7d,",
      "      function(error, res, body) \x7b",
      "        if (error) return done(error);",
      "",
      "        \x7b\x7b m::status(d=d, assertion=assertion, subject=\"res.statusCode\") \x7d\x7d",
      "",
      "        \x7b\x7b m::validate(d=d, assertion=assertion, subject=\"body\") \x7d\x7d",
      "        done();",
      "      \x7d);",
      "    \x7d);",
      "\x7b%- if d.load_test %\x7d",
      "",
      "    it('should sustain \x7b\x7b d.load_test.requests \x7d\x7d requests', function(done) \x7b",
      "      arete.loadTest(\x7b",
      "        name: '\x7b\x7b d.load_test.name \x7d\x7d',",
      "        requests: \x7b\x7b d.load_test.requests \x7d\x7d,",
      "        concurrentRequests: \x7b\x7b d.load_test.concurrent \x7d\x7d,",
      "        targetFunction: function(callback) \x7b",
      "          request(\x7b",
      "            url: \x7b\x7b d.request_path.code \x7d\x7d,",
      "            method: '\x7b\x7b operation.method | upper \x7d\x7d'",
      "          \x7d, callback);",
      "        \x7d,",
      "        printResponses: false,",
      "        printReport: true,",
      "        callback: done",
      "      \x7d);",
      "    \x7d);",
      "\x7b%- endif %\x7d",
      "\x7b% endfor %\x7d",
      "  \x7d);",
      "\x7b% endfor %\x7d",
      "\x7d);"]

/-- The text of the sequence template for calls of `request`. -/
def requestSequenceSource : String :=
  Script.text
    ["\x7b% import \"macros.tera\" as m -%\x7d",
      "'use strict';",
      "var async = require('async');",
      "var chai = require('chai');",
      "\x7b%- if block.flags.import_validator %\x7d",
      "var ZSchema = require('z-schema');",
      "var validator = new ZSchema(\x7b\x7d);",
      "\x7b%- endif %\x7d",
      "var request = require('request');",
      "var deps = \x7b\x7d;",
      "",
      "\x7b\x7b m::assertion_setup(assertion=assertion) \x7d\x7d",
      "\x7b%- if block.flags.import_env %\x7d",
      "",
      "require('dotenv').load();",
      "\x7b%- endif %\x7d",
      "",
      "describe('\x7b\x7b block.name \x7d\x7d sequence test', function() \x7b",
      "  it('should complete the sequence without err', function(done) \x7b",
      "    async.series([",
      "\x7b%- for d in block.steps %\x7d",
      "      function(cb) \x7b",
      "\x7b%- if d.has_schema %\x7d",
      "        /*eslint-disable*/",
      "        var schema = \x7b\x7b d.schema | indent_lines(width=8) \x7d\x7d;",
      "",
      "        /*eslint-enable*/",
      "\x7b%- endif %\x7d",
      "        request(\x7b",
      "          url: \x7b\x7b d.request_path.code \x7d\x7d,",
      "\x7b%- if d.query_api_key or d.query_values | length > 0 %\x7d",
      "          qs: \x7b",
      "\x7b%- if d.query_api_key %\x7d",
      "            \x7b\x7b d.query_api_key.type \x7d\x7d: process.env.\x7b\x7b d.query_api_key.name \x7d\x7d,",
      "\x7b%- endif %\x7d",
      "\x7b%- for v in d.query_values %\x7d",
      "            '\x7b\x7b v.name \x7d\x7d': \x7b\x7b v.code \x7d\x7d,",
      "\x7b%- endfor %\x7d",
      "          \x7d,",
      "\x7b%- endif %\x7d",
      "          method: '\x7b\x7b d.method | upper \x7d\x7d',",
      "          headers: \x7b",
      "            'Content-Type': '\x7b\x7b d.content_type \x7d\x7d',",
      "\x7b%- if d.header_security %\x7d",
      "            Authorization: '\x7b\x7b d.header_security.type \x7d\x7d ' + process.env.\x7b\x7b d.header_security.name \x7d\x7d,",
      "\x7b%- endif %\x7d",
      "\x7b%- if d.header_api_key %\x7d",
      "            '\x7b\x7b d.header_api_key.type \x7d\x7d': process.env.\x7b\x7b d.header_api_key.name \x7d\x7d,",
      "\x7b%- endif %\x7d",
      "\x7b%- for p in d.parameters.header %\x7d",
      "            '\x7b\x7b p.name \x7d\x7d': 'DATA GOES HERE',",
      "\x7b%- endfor %\x7d",
      "          \x7d,",
      "\x7b%- if d.body_values | length > 0 %\x7d",
      "          json: \x7b",
      "\x7b%- for v in d.body_values %\x7d",
      "            '\x7b\x7b v.name \x7d\x7d': \x7b\x7b v.code \x7d\x7d,",
      "\x7b%- endfor %\x7d",
      "          \x7d,",
      "\x7b%- endif %\x7d",
      "        \x7d,",
      "        function(error, res, body) \x7b",
      "          if (error) \x7b",
      "            return cb(new Error(error.message +",
      "              ' | erroneous step - \x7b\x7b d.path \x7d\x7d \x7b\x7b d.method | upper \x7d\x7d'));",
      "          \x7d",
      "",
      "          \x7b\x7b m::status(d=d, assertion=assertion, subject=\"res.statusCode\") \x7d\x7d",
      "",
      "          \x7b\x7b m::validate(d=d, assertion=assertion, subject=\"body\") \x7d\x7d",
      "",
      "          deps.\x7b\x7b d.step.step \x7d\x7d = typeof body === 'string' ? JSON.parse(body) : body;",
      "          cb(null);",
      "        \x7d);",
      "      \x7d\x7b% if not loop.last %\x7d,\x7b% endif %\x7d",
      "\x7b%- endfor %\x7d",
      "    ],",
      "    function(err) \x7b",
      "      done(err);",
      "    \x7d);",
      "  \x7d);",
      "\x7d);"]

/-- The text of the path template for calls of `supertest`. -/
def supertestPathSource : String :=
  Script.text
    ["\x7b% import \"macros.tera\" as m -%\x7d",
      "'use strict';",
      "var chai = require('chai');",
      "\x7b%- if block.flags.import_validator %\x7d",
      "var ZSchema = require('z-schema');",
      "var validator = new ZSchema(\x7b\x7d);",
      "\x7b%- endif %\x7d",
      "var supertest = require('supertest');",
      "var api = supertest('\x7b\x7b block.scheme \x7d\x7d://\x7b\x7b block.host \x7d\x7d'); // supertest init;",
      "\x7b%- if block.flags.import_load_test %\x7d",
      "var arete = require('arete');",
      "\x7b%- endif %\x7d",
      "",
      "\x7b\x7b m::assertion_setup(assertion=assertion) \x7d\x7d",
      "\x7b%- if block.flags.import_env %\x7d",
      "",
      "require('dotenv').load();",
      "\x7b%- endif %\x7d",
      "",
      "describe('\x7b\x7b block.path \x7d\x7d', function() \x7b",
      "\x7b%- for operation in block.operations %\x7d",
      "  describe('\x7b\x7b operation.method \x7d\x7d', function() \x7b",
      "\x7b%- for d in operation.tests %\x7d",
      "    it('should respond with \x7b\x7b d.summary | addslashes \x7d\x7d', function(done) \x7b",
      "\x7b%- if d.has_schema %\x7d",
      "      /*eslint-disable*/",
      "      var schema = \x7b\x7b d.schema | indent_lines(width=6) \x7d\x7d;",
      "",
      "      /*eslint-enable*/",
      "\x7b%- endif %\x7d",
      "      api.\x7b\x7b operation.method \x7d\x7d(\x7b\x7b d.request_path.code \x7d\x7d)",
      "\x7b%- if d.query_api_key or d.query_values | length > 0 %\x7d",
      "      .query(\x7b",
      "\x7b%- if d.query_api_key %\x7d",
      "        \x7b\x7b d.query_api_key.type \x7d\x7d: process.env.\x7b\x7b d.query_api_key.name \x7d\x7d,",
      "\x7b%- endif %\x7d",
      "\x7b%- for v in d.query_values %\x7d",
      "        '\x7b\x7b v.name \x7d\x7d': \x7b\x7b v.code \x7d\x7d,",
      "\x7b%- endfor %\x7d",
      "      \x7d)",
      "\x7b%- endif %\x7d",
      "\x7b%- if d.header_security %\x7d",
      "      .set('Authorization', '\x7b\x7b d.header_security.type \x7d\x7d ' + process.env.\x7b\x7b d.header_security.name \x7d\x7d)",
      "\x7b%- endif %\x7d",
      "\x7b%- if d.header_api_key %\x7d",
      "      .set('\x7b\x7b d.header_api_key.type \x7d\x7d', process.env.\x7b\x7b d.header_api_key.name \x7d\x7d)",
      "\x7b%- endif %\x7d",
      "\x7b%- for p in d.parameters.header %\x7d",
      "      .set('\x7b\x7b p.name \x7d\x7d', 'DATA GOES HERE')",
      "\x7b%- endfor %\x7d",
      "      .set('Accept', '\x7b\x7b d.return_type \x7d\x7d')",
      "\x7b%- if d.parameters.form_data | length > 0 %\x7d",
      "      .type('form')",
      "      .send(\x7b",
      "\x7b%- for p in d.parameters.form_data %\x7d",
      "        '\x7b\x7b p.name \x7d\x7d': 'DATA GOES HERE',",
      "\x7b%- endfor %\x7d",
      "      \x7d)",
      "\x7b%- elif d.body_values | length > 0 %\x7d",
      "      .set('Content-Type', '\x7b\x7b d.content_type \x7d\x7d')",
      "      .send(\x7b",
      "\x7b%- for v in d.body_values %\x7d",
      "        '\x7b\x7b v.name \x7d\x7d': \x7b\x7b v.code \x7d\x7d,",
      "\x7b%- endfor %\x7d",
      "      \x7d)",
      "\x7b%- endif %\x7d",
      "\x7b%- if not d.is_default %\x7d",
      "      .expect(\x7b\x7b d.response_code \x7d\x7d)",
      "\x7b%- endif %\x7d",
      "      .end(function(err, res) \x7b",
      "        if (err) return done(err);",
      "\x7b%- if d.is_default %\x7d",
      "",
      "        \x7b\x7b m::status(d=d, assertion=assertion, subject=\"res.statusCode\") \x7d\x7d",
      "\x7b%- endif %\x7d",
      "",
      "        \x7b\x7b m::validate(d=d, assertion=assertion, subject=\"res.body\") \x7d\x7d",
      "        done();",
      "      \x7d);",
      "    \x7d);",
      "\x7b%- if d.load_test %\x7d",
      "",
      "    it('should sustain \x7b\x7b d.load_test.requests \x7d\x7d requests', function(done) \x7b",
      "      arete.loadTest(\x7b",
      "        name: '\x7b\x7b d.load_test.name \x7d\x7d',",
      "        requests: \x7b\x7b d.load_test.requests \x7d\x7d,",
      "        concurrentRequests: \x7b\x7b d.load_test.concurrent \x7d\x7d,",
      "        targetFunction: function(callback) \x7b",
      "          api.\x7b\x7b operation.method \x7d\x7d(\x7b\x7b d.request_path.code \x7d\x7d).end(callback);",
      "        \x7d,",
      "        printResponses: false,",
      "        printReport: true,",
      "        callback: done",
      "      \x7d);",
      "    \x7d);",
      "\x7b%- endif %\x7d",
      "\x7b% endfor %\x7d",
      "  \x7d);",
      "\x7b% endfor %\x7d",
      "\x7d);"]

/-- The text of the sequence template for calls of `supertest`. -/
def supertestSequenceSource : String :=
  Script.text
    ["\x7b% import \"macros.tera\" as m -%\x7d",
      "'use strict';",
      "var async = require('async');",
      "var chai = require('chai');",
      "\x7b%- if block.flags.import_validator %\x7d",
      "var ZSchema = require('z-schema');",
      "var validator = new ZSchema(\x7b\x7d);",
      "\x7b%- endif %\x7d",
      "var supertest = require('supertest');",
      "var api = supertest('\x7b\x7b block.scheme \x7d\x7d://\x7b\x7b block.host \x7d\x7d'); // supertest init;",
      "var deps = \x7b\x7d;",
      "",
      "\x7b\x7b m::assertion_setup(assertion=assertion) \x7d\x7d",
      "\x7b%- if block.flags.import_env %\x7d",
      "",
      "require('dotenv').load();",
      "\x7b%- endif %\x7d",
      "",
      "describe('\x7b\x7b block.name \x7d\x7d sequence test', function() \x7b",
      "  it('should complete the sequence without err', function(done) \x7b",
      "    async.series([",
      "\x7b%- for d in block.steps %\x7d",
      "      function(cb) \x7b",
      "\x7b%- if d.has_schema %\x7d",
      "        /*eslint-disable*/",
      "        var schema = \x7b\x7b d.schema | indent_lines(width=8) \x7d\x7d;",
      "",
      "        /*eslint-enable*/",
      "\x7b%- endif %\x7d",
      "        api.\x7b\x7b d.method \x7d\x7d(\x7b\x7b d.request_path.code \x7d\x7d)",
      "\x7b%- if d.query_api_key or d.query_values | length > 0 %\x7d",
      "        .query(\x7b",
      "\x7b%- if d.query_api_key %\x7d",
      "          \x7b\x7b d.query_api_key.type \x7d\x7d: process.env.\x7b\x7b d.query_api_key.name \x7d\x7d,",
      "\x7b%- endif %\x7d",
      "\x7b%- for v in d.query_values %\x7d",
      "          '\x7b\x7b v.name \x7d\x7d': \x7b\x7b v.code \x7d\x7d,",
      "\x7b%- endfor %\x7d",
      "        \x7d)",
      "\x7b%- endif %\x7d",
      "\x7b%- if d.header_security %\x7d",
      "        .set('Authorization', '\x7b\x7b d.header_security.type \x7d\x7d ' + process.env.\x7b\x7b d.header_security.name \x7d\x7d)",
      "\x7b%- endif %\x7d",
      "\x7b%- if d.header_api_key %\x7d",
      "        .set('\x7b\x7b d.header_api_key.type \x7d\x7d', process.env.\x7b\x7b d.header_api_key.name \x7d\x7d)",
      "\x7b%- endif %\x7d",
      "\x7b%- for p in d.parameters.header %\x7d",
      "        .set('\x7b\x7b p.name \x7d\x7d', 'DATA GOES HERE')",
      "\x7b%- endfor %\x7d",
      "        .set('Accept', '\x7b\x7b d.return_type \x7d\x7d')",
      "\x7b%- if d.body_values | length > 0 %\x7d",
      "        .send(\x7b",
      "\x7b%- for v in d.body_values %\x7d",
      "          '\x7b\x7b v.name \x7d\x7d': \x7b\x7b v.code \x7d\x7d,",
      "\x7b%- endfor %\x7d",
      "        \x7d)",
      "\x7b%- endif %\x7d",
      "        .expect(\x7b\x7b d.response_code \x7d\x7d)",
      "        .end(function(err, res) \x7b",
      "          if (err) \x7b",
      "            return cb(new Error(err.message +",
      "              ' | erroneous step - \x7b\x7b d.path \x7d\x7d \x7b\x7b d.method | upper \x7d\x7d'));",
      "          \x7d",
      "",
      "          \x7b\x7b m::validate(d=d, assertion=assertion, subject=\"res.body\") \x7d\x7d",
      "",
      "          deps.\x7b\x7b d.step.step \x7d\x7d = res.body;",
      "          cb(null);",
      "        \x7d);",
      "      \x7d\x7b% if not loop.last %\x7d,\x7b% endif %\x7d",
      "\x7b%- endfor %\x7d",
      "    ],",
      "    function(err) \x7b",
      "      done(err);",
      "    \x7d);",
      "  \x7d);",
      "\x7d);"]

/-- **Built-in text** of a template. -/
def source : TemplateName → String
  | macros => macrosSource
  | environment => environmentSource
  | path .request => requestPathSource
  | path .supertest => supertestPathSource
  | sequence .request => requestSequenceSource
  | sequence .supertest => supertestSequenceSource

/-- The templates whose text the built-in text of a template makes use of. -/
def imported : TemplateName → List TemplateName
  | macros | environment => []
  | path _ | sequence _ => [macros]

end TemplateName

/-! ### What they become -/

namespace TestModule

/-- The built-in script of a path. -/
def pathScript (m : TestModule) (style : AssertionStyle) (block : PathBlock) : Script.Lines :=
  match m with
  | .request => Script.Request.path style block
  | .supertest => Script.Supertest.path style block

/-- The built-in script of a sequence. -/
def sequenceScript (m : TestModule) (style : AssertionStyle) (block : SequenceBlock) :
    Script.Lines :=
  match m with
  | .request => Script.Request.sequence style block
  | .supertest => Script.Supertest.sequence style block

end TestModule

/-- The text of an environment file: each variable on a line, without a value. -/
def EnvironmentBlock.text (block : EnvironmentBlock) : String :=
  String.join (block.variableNames.map fun name => name ++ "=\n")

/-- **The built-in set**: each template for its own kind of blocks. -/
def TemplateSet.builtIn : TemplateSet
  | .path m, ⟨_, style, .path block⟩ => some (Script.text (m.pathScript style block))
  | .sequence m, ⟨_, style, .sequence block⟩ => some (Script.text (m.sequenceScript style block))
  | .environment, ⟨_, _, .environment block⟩ => some block.text
  | _, _ => none

end ApiScaffold

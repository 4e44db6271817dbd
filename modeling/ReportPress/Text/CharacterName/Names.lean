/-!
Names of characters in the order of the alphabet. A name is written as small letters, whose places
in the alphabet add up to the count of characters that it shares with the start of the name before,
and what follows these characters. Line ends count for nothing.
-/

namespace ReportPress.Text.CharacterName

/-- The names of characters that are not made up of words and numbers. -/
def listed : String := "
aABACUSbC CURRENTcCORDIONeUNT OFcKdNOWLEDGEcTIVATE ARABIC FORM SHAPINGjSYMMETRIC SWAPPINGcUTE ACCENT
hNGLEbDDRESSED TO THE SUBJECTcHESIVE BANDAGEcI SHAKTIcLAM ALIF LENGTHENERgCAPITAL LETTER ALIFvBAwHE
vCHIvDAALIwHAvEvFAvGAwBEvHAvIvJIIMvKAFwHAwPOvLAAMvMIIMvNHAwUNwYAvOvPEvQAAFvRAvSHAwINNYIIYHEvTUvUvVA
vWAWvYAwHEvZALhONSONANT MODIFIERgDIGIT EIGHTmFIVEnOURmNINEmONEmSEVENnIXmTHREEnWOmZERO
gGEMINATE CONSONANT MODIFIERnION MARKgHAMZAgINITIAL EXCLAMATION MARKoQUESTION MARKgNASALIZATION MARK
hUKTAgSMALL LETTER ALIFtBAuHEtCHItDAALIuHAtEtFAtGAuBEtHAtItJIIMtKAFuHAuPOtLAAMtMIIMtNHAuUNuYAtOtPE
tQAAFtRAtSHAuINNYIIYHEtTUtUtVAtWAWtYAuHEtZALgVOWEL LENGTHENERcMETOSdISSION TICKETScULT
bEGEAN CHECK MARKhDRY MEASURE FIRST SUBUNIThLIQUID MEASURE FIRST SUBUNIThMEASURE SECOND SUBUNIT
pTHIRD SUBUNIThNUMBER EIGHTt HUNDREDuTHOUSANDtYu THOUSANDoFIFTYt THOUSANDqVEs HUNDREDtTHOUSANDpORTY
t THOUSANDqURs HUNDREDtTHOUSANDoNINEs HUNDREDtTHOUSANDsTYu THOUSANDoONEr HUNDREDsTHOUSANDoSEVEN
t HUNDREDuTHOUSANDtTYv THOUSANDpIXr HUNDREDsTHOUSANDrTYt THOUSANDoTENr THOUSANDpHIRTYu THOUSANDqREE
t HUNDREDuTHOUSANDpWENTYu THOUSANDqOr HUNDREDsTHOUSANDhWEIGHT BASE UNIToFIRST SUBUNITpOURTH SUBUNIT
oSECOND SUBUNIToTHIRD SUBUNITiORD SEPARATOR DOTwLINEcRIAL TRAMWAYbFGHANI SIGN
bHOM CONSONANT SIGN MEDIAL LAzdIGATING RAzcRAfDIGIT EIGHTlFIVEmOURlNINElONElSEVENmIXlTHREEmWOlZERO
fLETTER AnLTERNATE BAwGAwTAmBAnHAmCAnHAmDAnDAoHAnHAmGAnHAmHAmJAnHAmKAnHAmLAnLAmMAmNAnGAnNAnYAmPAnHA
mRAmSAmTAnHAnTAoHAfNUMBER TENnWENTYfSIGN KILLERkRULAIkSECTIONlMALL SECTIONgYMBOL VIfVOWEL SIGN ArArI
rMrWqEqIrIqOqUrUbIRPLANEi ARRIVINGjDEPARTUREbKTIESELSKABbLARM CLOCKcCHEMICAL SYMBOL FOR AIRxLEMBIC
yKALIzd-2yUMxMALGAMxNTIMONY ORExQUA REGIAzh-2zcVITAEzh-2zbFORTISxRSENICxSHESxURIPIGMENTwBATH OF MARY
zfVAPOURSxISMUTH ORExLACK SULFURxORAXzc-2zd3xRICKwCADUCEUSyLXyPUT MORTUUMxINNABARxOPPER ANTIMONIATE
zeORExROCUS OF COPPERzn-2zhIRONyUCIBLEzf-2zg3zg4zg5wDAY-NIGHTxISSOLVEzf-2zTILLwEARTHwFIREwGOLDxUM
wHALF DRAMzcOUNCExORSE DUNGyURwIRON OREzf-2zb-COPPER OREwLEAD ORExODESTONEwMARCASITE
xERCURY SUBLIMATEzo-2zp3xONTHwNIGHTyTREwOILwPHILOSOPHERS SULFURxOT ASHESyWDERzdED BRICKxRECIPITATE
xURIFYyTREFACTIONwQUICK LIMEzNTESSENCEwREALGARze-2yGULUSze OF ANTIMONYzq-2ziIRONze-2zf3zf4yTORT
xOCK SALTzg-2wSAL-AMMONIACzTzb OF ANTIMONYzfCOPPER ANTIMONIATExCEPTER OF JOVExILVERxOAPxPIRIT
xTARRED TRIDENTyRATUM SUPER STRATUMzs-2xUBLIMATE OF ANTIMONYzkCOPPERzkSALT OF ANTIMONYzsCOPPERzfION
yLFURwTARTARzd-2xIN OREzCTURExRIDENTxUTTYwURINEwVERDIGRISxINEGARze OF ANTIMONYze-2zf3yTRIOLze-2
wWATERyXcEF SYMBOLdMBICdRTcIEN MONSTERcL AROUND-PROFILEeEQUAL TOcMdOST EQUAL OR EQUAL TOnTO
p WITH CIRCUMFLEX ACCENTcTERNATE ONE-WAY LEFT WAY TRAFFICiIVE KEY SYMBOLbMALGAMATION OR COPRODUCT
cBULANCEcERICAN FOOTBALLcPERSANDdHORAbNATOLIAN HIEROGLYPH A001y2y3y4y5y6y7y8y9x10zAy1y2y3y4y5y6y7y8
y9x20y1y2y3y4y5y6zAy7y8y9x30y1y2y3y4y5y6y7y8y9zAx40y1zAy2y3y4y5zAy6zAzBy7y8y9x50y1y2y3y4y5y6y7y8y9
x60y1y2y3y4y5y6zAzBzCy7y8y9x70y1y2y3y4y5y6y7y8y9x80y1y2y3y4y5y6y7y8y9x90y1y2y3y4y5y6y7zAy8zAy9w100zA
y1zAy2zAy3y4zAzBzCy5zAzBy6y7zAzBzCy8y9x10zAzBy1y2y3y4y5zAy6y7y8y9x20y1y2y3y4y5zAy6y7y8y9x30y1y2y3y4
y5zAy6y7y8y9x40y1y2y3y4y5y6y7y8y9x50y1y2y3y4y5y6y7y8y9x60y1y2y3y4y5y6y7y8y9x70y1y2y3y4y5y6y7y8y9x80
y1y2y3y4y5y6y7y8y9x90y1y2y3y4y5y6y7y8y9w200y1y2zAzBy3y4y5y6y7zAy8y9zAx10y1y2y3y4y5zAy6zAy7y8y9x20y1
y2y3y4y5y6y7zAy8y9x30y1y2y3y4y5y6y7y8y9x40y1y2y3y4y5y6y7y8y9x50y1y2y3y4y5y6y7y8y9x60y1y2y3y4y5y6y7zA
y8y9x70y1y2y3y4y5y6y7y8y9x80y1y2y3y4y5y6y7y8y9zAx90y1y2y3y4zAy5y6y7y8y9zAw300y1y2y3y4y5y6y7y8y9zAx10
y1y2y3y4y5y6y7y8y9x20y1y2y3y4y5y6y7y8y9zAx30y1y2AzBzCy3y4y5y6zAzBzCy7y8y9x40y1y2y3y4y5y6y7y8y9x50y1
y2y3y4y5y6y7y8y9zAx60y1y2y3y4zAy5y6y7y8zAy9x70y1zAy2y3y4y5y6y7y8y9x80y1zAy2y3 RA OR RIzAy4y5y6zAy7y8
y9x90y1y2y3 EIGHTy4y5y6y7y8y9w400y1y2y3y4y5y6y7y8y9x10 BEGIN LOGOGRAM MARKzA END LOGOGRAM MARKy1y2y3
y4y5y6y7y8y9x20y1y2y3y4y5y6y7y8y9x30y1y2y3y4y5y6y7y8y9x40y1y2y3y4y5y6y7y8y9x50zAy1y2y3y4y5y6y7zAy8y9
x60y1y2y3y4y5y6y7y8y9x70y1y2y3y4y5y6y7y8y9x80y1y2y3y4y5y6y7y8y9x90y1y2y3y4y5y6y7w501y2y3y4y5y6y7y8y9
x10y1y2y3y4y5y6y7y8y9x20y1y2y3y4y5y6y7y8y9x30fMICAL HEARTcCHORcD WITH DOTcGER SYMBOLdLE
f WITH S INSIDElUNDERBARdRY FACEdSTROM SIGNdUISHED FACEcKHcTdENNA WITH BARS
dICLOCKWISE CLOSED CIRCLE ARROWpONTOUR INTEGRALoDOWNWARDS AND UPWARDS OPEN CIRCLE ARROWS
oGAPPED CIRCLE ARROWoINTEGRATIONoOPEN CIRCLE ARROWoTOP SEMICIRCLE ARROW
pRIANGLE-HEADED BOTTOM U-SHAPED ARROWzfLEFT U-SHAPED ARROWzfOPEN CIRCLE ARROWzfRIGHT U-SHAPED ARROW
zfTOP U-SHAPED ARROWbPCcL FUNCTIONAL SYMBOL ALPHAzc UNDERBARwBACKSLASH BARwCIRCLE BACKSLASH
zeDIAERESISzeJOTzeSTARzgILEzeUNDERBARxOMMA BARwDEL DIAERESISzbSTILEzbTILDEzTA STILEzdUNDERBAR
xIAMOND UNDERBARxOWN CARET TILDEzcSHOE STILEzcTACK JOTzhUNDERBARzbWARDS VANEwEPSILON UNDERBAR
wGREATER-THAN DIAERESISwI-BEAMxOTAzb UNDERBARwJOT DIAERESISzbUNDERBARwLEFT SHOE STILEzbWARDS VANE
wOMEGAzc UNDERBARwQUADzb BACKSLASHzcCIRCLEzdOLONzcDELzfTAzdIAMONDzeVIDEzdOWN CARETzgWARDS ARROW
zcEQUALzcGREATER-THANzcJOTzcLEFTWARDS ARROWzeSS-THANzcNOT EQUALzcQUESTIONzcRIGHTWARDS ARROWzcSLASH
zcUP CARETzeWARDS ARROWyOTE QUADzdUNDERBARwRHOxIGHTWARDS VANEwSEMICOLON UNDERBARxLASH BARxQUISH QUAD
xTAR DIAERESISyILE TILDEwTILDE DIAERESISwUP CARET TILDEzSHOE JOTzTACK DIAERESISzfJOTzfOVERBAR
yWARDS VANEwZILDEcOLLONdSTROPHEcPLICATION PROGRAM COMMANDdROACHES THE LIMIT
fXIMATELY BUT NOT ACTUALLY EQUAL TOoEQUAL OR EQUAL TOuTOw OR THE IMAGE OFbQUARIUS
bRABIC BASELINE ROUND DOThCOMMAiURLY DAMMAsTANnFATHAsTANnKASRAsTANhDAMMAm ISOLATED FORMnMEDIAL FORM
nWITH DOTmTANp ISOLATED FORMjTE SEPARATORiECIMAL SEPARATORiISPUTED END OF AYAH
iOUBLE RIGHT ARROWHEAD ABOVEzk WITH DOTnD MADDAhEMPTY CENTRE HIGH STOPuLOW STOPiND OF AYAHoTEXT MARK
hFATHAm ISOLATED FORMnMEDIAL FORMnWITH DOT ABOVEsRINGsTWO DOTSmTANp ISOLATED FORMiIVE POINTED STAR
iOOTNOTE MARKERiULL STOPhHALF MADDA OVER MADDAjMZA ABOVEnBELOWhINVERTED DAMMAhKASRAm ISOLATED FORM
nMEDIAL FORMnWITH DOT BELOWmTANp ISOLATED FORMhLARGE CIRCLE BELOWnROUND DOT ABOVExBELOW
xINSIDE CIRCLE BELOWiEFT ARROWHEAD ABOVEwBELOWjTTER AEpFRICAN FEHwNOONwQAFz WITH THREE DOTS ABOVEpIN
r FINAL FORMsINITIAL FORMtSOLATED FORMsMEDIAL FORMsWITH THREE DOTS ABOVEzjBELOW
zjPOINTING DOWNWARDS ABOVEyWO DOTS ABOVEzhVERTICALLY ABOVEpLEFs FINAL FORMtISOLATED FORMtMAKSURA
zb FINAL FORMzcISOLATED FORMtWASLAy FINAL FORMzISOLATED FORMuITH ATTACHED BOTTOM RIGHT KASRA
zzb AND DOT ABOVEzzgLEFT RINGziFATHAziKASRAziLEFT HAMZAznROUND DOTziRIGHT HAMZAzoROUND DOT
zjOUND DOT ABOVEzsBELOWziTOP RIGHT FATHAzx AND DOT ABOVEzzdLEFT RINGyDOT ABOVE
yEXTENDED ARABIC-INDIC DIGIT THREE ABOVEzzdWO ABOVEyHAMZA ABOVEzk FINAL FORMzlISOLATED FORMzfBELOW
zk FINAL FORMzlISOLATED FORMyLEFT MIDDLE STROKEyMADDA ABOVEzk FINAL FORMzlISOLATED FORM
yRIGHT MIDDLE STROKEzs AND DOT ABOVEzxLEFT RINGyWAVY HAMZA ABOVEzkBELOWoBEEHs FINAL FORM
tINITIAL FORMuSOLATED FORMtMEDIAL FORMqHr FINAL FORMsINITIAL FORMtSOLATED FORMsMEDIAL FORM
sWITH DOT BELOW AND THREE DOTS ABOVExHAMZA ABOVExINVERTED SMALL V BELOWxSMALL MEEM ABOVEzeVzf BELOW
xTHREE DOTS HORIZONTALLY BELOWzjPOINTING UPWARDS BELOWzzg AND TWO DOTS ABOVE
yWO DOTS BELOW AND DOT ABOVErEHt FINAL FORMuINITIAL FORMvSOLATED FORMuMEDIAL FORMoDADr FINAL FORM
sINITIAL FORMtSOLATED FORMsMEDIAL FORMsWITH DOT BELOWqHALt FINAL FORMuISOLATED FORMqLr FINAL FORM
sISOLATED FORMsWITH DOT BELOWzh AND SMALL TAHxFOUR DOTS ABOVExINVERTED SMALL V BELOWzhVxRING
xTHREE DOTS ABOVE DOWNWARDSzjBELOWyWO DOTS VERTICALLY BELOW AND SMALL TAHpDAHALu FINAL FORM
vISOLATED FORMrLs FINAL FORMtISOLATED FORMpOTLESS BEHwFEHwQAFpULr FINAL FORMsISOLATED FORMpYEH
s FINAL FORMtINITIAL FORMuSOLATED FORMtMEDIAL FORMoEp FINAL FORMqINITIAL FORMrSOLATED FORM
qMEDIAL FORMoFARSI YEHx FINAL FORMyINITIAL FORMzSOLATED FORMyMEDIAL FORM
yWITH EXTENDED ARABIC-INDIC DIGIT FOUR BELOWzzhTHREE ABOVEzziWO ABOVEzeINVERTED VzeTHREE DOTS ABOVE
zfWO DOTS ABOVEpEHr FINAL FORMsINITIAL FORMtSOLATED FORMsMEDIAL FORMsWITH DOT BELOW
zh AND THREE DOTS ABOVEzcMOVED BELOWxTHREE DOTS BELOWzjPOINTING UPWARDS BELOWyWO DOTS BELOWoGAF
r FINAL FORMsINITIAL FORMtSOLATED FORMsMEDIAL FORMsWITH INVERTED STROKExRINGxTHREE DOTS ABOVE
yWO DOTS BELOWpHAINt FINAL FORMuINITIAL FORMvSOLATED FORMuMEDIAL FORMuWITH DOT BELOW
zTHREE DOTS ABOVEpRAFpUEHs FINAL FORMtINITIAL FORMuSOLATED FORMtMEDIAL FORMoHAHr FINAL FORM
sINITIAL FORMtSOLATED FORMsMEDIAL FORMsWITH EXTENDED ARABIC-INDIC DIGIT FOUR BELOWxHAMZA ABOVE
xINVERTED SMALL V BELOWxSMALL ARABIC LETTER TAH ABOVEzxND TWO DOTSzwBELOWxTHREE DOTS ABOVE
zjPOINTING UPWARDS BELOWyWO DOTS ABOVEzhVERTICAL ABOVEqMZAt ISOLATED FORMpEHr DOACHASHMEE
ze FINAL FORMzfINITIAL FORMzgSOLATED FORMzfMEDIAL FORMsFINAL FORMsGOALw FINAL FORMxINITIAL FORM
ySOLATED FORMxMEDIAL FORMxWITH HAMZA ABOVEsINITIAL FORMtSOLATED FORMsMEDIAL FORMsWITH INVERTED V
xYEH ABOVEzh FINAL FORMziISOLATED FORMpIGH HAMZAy ALEFzWAWzYEHoJEEMs FINAL FORMtINITIAL FORM
uSOLATED FORMtMEDIAL FORMtWITH THREE DOTS ABOVEzkBELOWzWO DOTS ABOVEqHr FINAL FORMsISOLATED FORMoKAF
r FINAL FORMsINITIAL FORMtSOLATED FORMsMEDIAL FORMsWITH DOT ABOVEzcBELOWxRINGxTHREE DOTS BELOW
yWO DOTS ABOVEqSHMIRI YEHpEHEHt FINAL FORMuINITIAL FORMvSOLATED FORMuMEDIAL FORMuWITH DOT ABOVE
zSMALL VzTHREE DOTS ABOVEzlBELOWzlPOINTING UPWARDS BELOWzbWO DOTS ABOVEzjVERTICALLY BELOWpHAH
s FINAL FORMtINITIAL FORMuSOLATED FORMtMEDIAL FORMpIRGHIZ OEy FINAL FORMzISOLATED FORMwYU
y FINAL FORMzISOLATED FORMoLAMr FINAL FORMsINITIAL FORMtSOLATED FORMsMEDIAL FORMsWITH BARxDOT ABOVE
zUBLE BARxSMALL ARABIC LETTER TAH ABOVEzeVxTHREE DOTS ABOVEzjBELOWpOW ALEFoMARKpEEMs FINAL FORM
tINITIAL FORMuSOLATED FORMtMEDIAL FORMtWITH DOT ABOVEzdBELOWyTHREE DOTS ABOVEoNGq FINAL FORM
rINITIAL FORMsSOLATED FORMrMEDIAL FORMqOEHt FINAL FORMuINITIAL FORMvSOLATED FORMuMEDIAL FORMpOON
s FINAL FORMtGHUNNAz FINAL FORMzbISOLATED FORMtINITIAL FORMuSOLATED FORMtMEDIAL FORMtWITH DOT BELOW
yINVERTED SMALL VyRINGySMALL TAHzfVyTHREE DOTS ABOVEzWO DOTS BELOWpYEHs FINAL FORMtINITIAL FORM
uSOLATED FORMtMEDIAL FORMoOEq FINAL FORMrISOLATED FORMoPEHr FINAL FORMsINITIAL FORMtSOLATED FORM
sMEDIAL FORMsWITH SMALL MEEM ABOVEzeVrEHt FINAL FORMuINITIAL FORMvSOLATED FORMuMEDIAL FORMoQAF
r FINAL FORMsINITIAL FORMtSOLATED FORMsMEDIAL FORMsWITH DOT ABOVEzcBELOWzh AND NO DOTS ABOVE
xTHREE DOTS ABOVEoREHr FINAL FORMsISOLATED FORMsWITH DOT BELOWzh AND DOT ABOVExFOUR DOTS ABOVE
xHAMZA ABOVExINVERTED VxLOOPxRINGxSMALL ARABIC LETTER TAH AND TWO DOTSzeNOON ABOVEzeVzf BELOWyTROKE
xTWO DOTS ABOVEzhVERTICALLY ABOVEpNOONt FINAL FORMuINITIAL FORMvSOLATED FORMuMEDIAL FORMpOHINGYA YEH
pREHs FINAL FORMtISOLATED FORMoSADr FINAL FORMsINITIAL FORMtSOLATED FORMsMEDIAL FORM
sWITH THREE DOTS ABOVEzjBELOWyWO DOTS BELOWpEENs FINAL FORMtINITIAL FORMuSOLATED FORMtMEDIAL FORM
tWITH DOT BELOW AND DOT ABOVEyEXTENDED ARABIC-INDIC DIGIT FOUR ABOVEyFOUR DOTS ABOVEyINVERTED V
ySMALL ARABIC LETTER TAH AND TWO DOTSyTHREE DOTS BELOWzp AND THREE DOTS ABOVE
zWO DOTS VERTICALLY ABOVEpHEENt FINAL FORMuINITIAL FORMvSOLATED FORMuMEDIAL FORMuWITH DOT BELOW
pTRAIGHT WAWpUPERSCRIPT ALEFpWASH KAFoTAHr FINAL FORMsINITIAL FORMtSOLATED FORMsMEDIAL FORM
sWITH DOT BELOWxTHREE DOTS ABOVEzjBELOWyWO DOTS ABOVEpCHEHt FINAL FORMuINITIAL FORMvSOLATED FORM
uMEDIAL FORMuWITH DOT ABOVEzSMALL VtEHv FINAL FORMwINITIAL FORMxSOLATED FORMwMEDIAL FORMpEH
r FINAL FORMsINITIAL FORMtSOLATED FORMsMARBUTAz FINAL FORMzbGOALzbISOLATED FORMtEDIAL FORMsWITH RING
xSMALL TEH ABOVEzeVxTHREE DOTS ABOVE DOWNWARDSrEHt FINAL FORMuINITIAL FORMvSOLATED FORMuMEDIAL FORM
pHALs FINAL FORMtISOLATED FORMqEHs FINAL FORMtINITIAL FORMuSOLATED FORMtMEDIAL FORMqIN YEHpTEH
s FINAL FORMtINITIAL FORMuSOLATED FORMtMEDIAL FORMtWITH SMALL VsEHu FINAL FORMvINITIAL FORM
wSOLATED FORMvMEDIAL FORMoUp FINAL FORMqISOLATED FORMqWITH HAMZA ABOVEzh ISOLATED FORM
pIGHUR KAZAKH KIRGHIZ ALEF MAKSURA INITIAL FORMzyMEDIAL FORMoVEq FINAL FORMrISOLATED FORMqH
r FINAL FORMsINITIAL FORMtSOLATED FORMsMEDIAL FORMoWAWr FINAL FORMsISOLATED FORMsWITH DOT ABOVE
zcWITHINxEXTENDED ARABIC-INDIC DIGIT THREE ABOVEzzcWO ABOVExHAMZA ABOVEzj FINAL FORMzkISOLATED FORM
xRINGxTWO DOTS ABOVEoYEHr BARREEy FINAL FORMzISOLATED FORM
zWITH EXTENDED ARABIC-INDIC DIGIT THREE ABOVEzzjWO ABOVEzfHAMZA ABOVEzq FINAL FORMzrISOLATED FORM
sFINAL FORMsINITIAL FORMtSOLATED FORMsMEDIAL FORMsWITH HAMZA ABOVEzj FINAL FORMzkINITIAL FORM
zlSOLATED FORMzkMEDIAL FORMxSMALL VxTAILyHREE DOTS BELOWyWO DOTS BELOW AND DOT ABOVEzrHAMZA ABOVE
zrSMALL NOON ABOVEpUq FINAL FORMrISOLATED FORMoZAHr FINAL FORMsINITIAL FORMtSOLATED FORMsMEDIAL FORM
qINs FINAL FORMtISOLATED FORMtWITH INVERTED V ABOVEiIGATURE AIN WITH ALEF MAKSURA FINAL FORM
znISOLATED FORMzJEEM INITIAL FORMzgSOLATED FORMzfWITH MEEM FINAL FORMzpINITIAL FORM
zMEEM INITIAL FORMzgSOLATED FORMzfWITH ALEF MAKSURA FINAL FORMzkMEEM FINAL FORMzpINITIAL FORM
zkYEH FINAL FORMzYEH FINAL FORMzeISOLATED FORMrKBAR ISOLATED FORMrLAYHAA AS-SALAAMvE ISOLATED FORM
vI AS-SALAAMzgTU WAS-SALAAMwM AS-SALAAMxAA AS-SALAAMsEF MAKSURA WITH SUPERSCRIPT ALEF FINAL FORM
zzbISOLATED FORMvWITH FATHATAN FINAL FORMzkISOLATED FORMsLAH ISOLATED FORMrZZA WA JALL
qBEH WITH ALEF MAKSURA FINAL FORMznISOLATED FORMzHAH INITIAL FORMzfSOLATED FORMzeWITH YEH FINAL FORM
zbEH INITIAL FORMzeMEDIAL FORMzJEEM INITIAL FORMzgSOLATED FORMzKHAH INITIAL FORMzgSOLATED FORM
zfWITH YEH FINAL FORMzMEEM FINAL FORMzfINITIAL FORMzgSOLATED FORMzfMEDIAL FORMzNOON FINAL FORM
zREH FINAL FORMzYEH FINAL FORMzeISOLATED FORMzZAIN FINAL FORMrISMILLAH AR-RAHMAN AR-RAHEEM
qDAD WITH ALEF MAKSURA FINAL FORMznISOLATED FORMzHAH INITIAL FORMzfSOLATED FORM
zeWITH ALEF MAKSURA FINAL FORMzjYEH FINAL FORMzJEEM INITIAL FORMzgSOLATED FORMzKHAH INITIAL FORM
zgSOLATED FORMzfWITH MEEM FINAL FORMzpINITIAL FORMzMEEM INITIAL FORMzgSOLATED FORMzREH FINAL FORM
zeISOLATED FORMzYEH FINAL FORMzeISOLATED FORMqFEH WITH ALEF MAKSURA FINAL FORMznISOLATED FORM
zHAH INITIAL FORMzfSOLATED FORMzJEEM INITIAL FORMzgSOLATED FORMzKHAH INITIAL FORMzgSOLATED FORM
zfWITH MEEM FINAL FORMzpINITIAL FORMzMEEM INITIAL FORMzgSOLATED FORMzfWITH YEH FINAL FORM
zYEH FINAL FORMzeISOLATED FORMqGHAIN WITH ALEF MAKSURA FINAL FORMzpISOLATED FORMzcJEEM INITIAL FORM
ziSOLATED FORMzcMEEM INITIAL FORMziSOLATED FORMzhWITH ALEF MAKSURA FINAL FORMzmMEEM FINAL FORM
zmYEH FINAL FORMzcYEH FINAL FORMzgISOLATED FORMqHAH WITH ALEF MAKSURA FINAL FORMznISOLATED FORM
zJEEM INITIAL FORMzgSOLATED FORMzfWITH YEH FINAL FORMzMEEM INITIAL FORMzgSOLATED FORM
zfWITH ALEF MAKSURA FINAL FORMzkYEH FINAL FORMzYEH FINAL FORMzeISOLATED FORM
rEH WITH ALEF MAKSURA ISOLATED FORMzJEEM INITIAL FORMzgSOLATED FORMzMEEM INITIAL FORMzgSOLATED FORM
zfWITH JEEM INITIAL FORMzkMEEM INITIAL FORMzSUPERSCRIPT ALEF INITIAL FORMzYEH ISOLATED FORM
qJALLAJALALOUHOUrEEM WITH ALEF MAKSURA FINAL FORMzoISOLATED FORMzbHAH INITIAL FORMzgSOLATED FORM
zfWITH ALEF MAKSURA FINAL FORMzkYEH FINAL FORMzbMEEM INITIAL FORMzhSOLATED FORM
zgWITH ALEF MAKSURA FINAL FORMzlHAH FINAL FORMzpINITIAL FORMzlYEH FINAL FORMzbYEH FINAL FORM
zfISOLATED FORMqKAF WITH ALEF FINAL FORMzfISOLATED FORMzfMAKSURA FINAL FORMznISOLATED FORM
zHAH INITIAL FORMzfSOLATED FORMzJEEM INITIAL FORMzgSOLATED FORMzKHAH INITIAL FORMzgSOLATED FORM
zLAM FINAL FORMzeINITIAL FORMzfSOLATED FORMzeMEDIAL FORMzMEEM FINAL FORMzfINITIAL FORMzgSOLATED FORM
zfMEDIAL FORMzfWITH MEEM FINAL FORMzpINITIAL FORMzkYEH FINAL FORMzYEH FINAL FORMzeISOLATED FORM
rHAH WITH ALEF MAKSURA FINAL FORMzoISOLATED FORMzbHAH ISOLATED FORMzbJEEM INITIAL FORMzhSOLATED FORM
zbMEEM INITIAL FORMzhSOLATED FORMzbYEH FINAL FORMzfISOLATED FORMqLAM WITH ALEF FINAL FORM
zfISOLATED FORMzfMAKSURA FINAL FORMznISOLATED FORMzfWITH HAMZA ABOVE FINAL FORMzwISOLATED FORM
zqBELOW FINAL FORMzwISOLATED FORMzkMADDA ABOVE FINAL FORMzwISOLATED FORMzHAH INITIAL FORM
zfSOLATED FORMzeWITH ALEF MAKSURA FINAL FORMzjMEEM FINAL FORMzoINITIAL FORMzjYEH FINAL FORM
zbEH INITIAL FORMzJEEM INITIAL FORMzgSOLATED FORMzfWITH JEEM FINAL FORMzpINITIAL FORM
zkMEEM FINAL FORMzpINITIAL FORMzkYEH FINAL FORMzKHAH INITIAL FORMzgSOLATED FORM
zfWITH MEEM FINAL FORMzpINITIAL FORMzMEEM FINAL FORMzfINITIAL FORMzgSOLATED FORMzfMEDIAL FORM
zfWITH HAH FINAL FORMzoINITIAL FORMzkYEH FINAL FORMzYEH FINAL FORMzeISOLATED FORM
qMEEM WITH ALEF FINAL FORMzgMAKSURA ISOLATED FORMzbHAH INITIAL FORMzgSOLATED FORM
zfWITH JEEM INITIAL FORMzkMEEM INITIAL FORMzkYEH FINAL FORMzbJEEM INITIAL FORMzhSOLATED FORM
zgWITH HAH INITIAL FORMzlKHAH INITIAL FORMzlMEEM INITIAL FORMzlYEH FINAL FORMzbKHAH INITIAL FORM
zhSOLATED FORMzgWITH JEEM INITIAL FORMzlMEEM INITIAL FORMzlYEH FINAL FORMzbMEEM FINAL FORM
zgINITIAL FORMzhSOLATED FORMzgWITH YEH FINAL FORMzbYEH ISOLATED FORMrOHAMMAD ISOLATED FORM
qNOON WITH ALEF MAKSURA FINAL FORMzoISOLATED FORMzbHAH INITIAL FORMzgSOLATED FORM
zfWITH ALEF MAKSURA FINAL FORMzkMEEM INITIAL FORMzkYEH FINAL FORMzcEH INITIAL FORMzfMEDIAL FORM
zbJEEM INITIAL FORMzhSOLATED FORMzgWITH ALEF MAKSURA FINAL FORMzlHAH FINAL FORMzpINITIAL FORM
zlMEEM FINAL FORMzqINITIAL FORMzlYEH FINAL FORMzbKHAH INITIAL FORMzhSOLATED FORMzbMEEM FINAL FORM
zgINITIAL FORMzhSOLATED FORMzgMEDIAL FORMzgWITH ALEF MAKSURA FINAL FORMzlYEH FINAL FORM
zbNOON FINAL FORMzbREH FINAL FORMzbYEH FINAL FORMzfISOLATED FORMzbZAIN FINAL FORM
qQAF WITH ALEF MAKSURA FINAL FORMznISOLATED FORMzHAH INITIAL FORMzfSOLATED FORMzMEEM INITIAL FORM
zgSOLATED FORMzfWITH HAH FINAL FORMzoINITIAL FORMzkMEEM FINAL FORMzkYEH FINAL FORMzYEH FINAL FORM
zeISOLATED FORMsLA USED AS KORANIC STOP SIGN ISOLATED FORMrUDDISA SIRRAHqRADI ALLAAHU ANHzhAAzhUM
zjAAziNNAsHIMAHU ALLAAHyM ALLAAHsSOUL ISOLATED FORMrEH WITH SUPERSCRIPT ALEF ISOLATED FORM
qSAD WITH ALEF MAKSURA FINAL FORMznISOLATED FORMzHAH INITIAL FORMzfSOLATED FORMzeWITH HAH FINAL FORM
znINITIAL FORMzjYEH FINAL FORMzKHAH INITIAL FORMzMEEM INITIAL FORMzgSOLATED FORM
zfWITH MEEM FINAL FORMzpINITIAL FORMzREH FINAL FORMzeISOLATED FORMzYEH FINAL FORMzeISOLATED FORM
sLAAMUHU ALAYNAAuM ISOLATED FORMtLA ISOLATED FORMwUSED AS KORANIC STOP SIGN ISOLATED FORM
vLLAAHU ALAYHI WA-AALIHyHOU ALAYHE WASALLAMzU ALAYHI WAAALIHEE WA-SALLAM
rEEN WITH ALEF MAKSURA FINAL FORMzoISOLATED FORMzbHAH INITIAL FORMzgSOLATED FORMzfMEDIAL FORM
zfWITH JEEM INITIAL FORMzcEH INITIAL FORMzfMEDIAL FORMzbJEEM INITIAL FORMzhSOLATED FORMzgMEDIAL FORM
zgWITH ALEF MAKSURA FINAL FORMzlHAH INITIAL FORMzbKHAH INITIAL FORMzhSOLATED FORMzgMEDIAL FORM
zgWITH ALEF MAKSURA FINAL FORMzlYEH FINAL FORMzbMEEM INITIAL FORMzhSOLATED FORMzgMEDIAL FORM
zgWITH HAH FINAL FORMzpINITIAL FORMzlJEEM INITIAL FORMzlMEEM FINAL FORMzqINITIAL FORM
zbREH FINAL FORMzfISOLATED FORMzbYEH FINAL FORMzfISOLATED FORMrHADDA WITH DAMMA ISOLATED FORM
zjMEDIAL FORMziTAN ISOLATED FORMzdFATHA ISOLATED FORMzjMEDIAL FORMzdKASRA ISOLATED FORMzjMEDIAL FORM
ziTAN ISOLATED FORMzdSUPERSCRIPT ALEF ISOLATED FORMsEEN WITH ALEF MAKSURA FINAL FORMzpISOLATED FORM
zcHAH FINAL FORMzgINITIAL FORMzhSOLATED FORMzgMEDIAL FORMzgWITH MEEM FINAL FORMzqINITIAL FORM
zlYEH FINAL FORMzdEH INITIAL FORMzgMEDIAL FORMzcJEEM FINAL FORMzhINITIAL FORMziSOLATED FORM
zhMEDIAL FORMzhWITH YEH FINAL FORMzcKHAH FINAL FORMzhINITIAL FORMziSOLATED FORMzhMEDIAL FORM
zcMEEM FINAL FORMzhINITIAL FORMziSOLATED FORMzhMEDIAL FORMzhWITH KHAH FINAL FORMzrINITIAL FORM
zmMEEM FINAL FORMzrINITIAL FORMzcREH FINAL FORMzgISOLATED FORMzcYEH FINAL FORMzgISOLATED FORM
rUBHAANAHU WA TAAALAAqTABAARAKA WA-TAAALAAsH WITH ALEF MAKSURA FINAL FORMznISOLATED FORM
zHAH INITIAL FORMzfSOLATED FORMzMEEM INITIAL FORMzgSOLATED FORMzfMEDIAL FORMzfWITH HAH FINAL FORM
zoINITIAL FORMzkMEEM INITIAL FORMzkYEH FINAL FORMzYEH FINAL FORMzeISOLATED FORM
rEH WITH ALEF MAKSURA FINAL FORMznISOLATED FORMzHAH INITIAL FORMzfSOLATED FORMzeWITH JEEM FINAL FORM
zoINITIAL FORMzjMEEM INITIAL FORMzbEH INITIAL FORMzeMEDIAL FORMzJEEM INITIAL FORMzgSOLATED FORM
zfWITH ALEF MAKSURA FINAL FORMzkMEEM INITIAL FORMzkYEH FINAL FORMzKHAH INITIAL FORMzgSOLATED FORM
zfWITH ALEF MAKSURA FINAL FORMzkMEEM INITIAL FORMzkYEH FINAL FORMzMEEM FINAL FORMzfINITIAL FORM
zgSOLATED FORMzfMEDIAL FORMzfWITH ALEF MAKSURA FINAL FORMzkHAH INITIAL FORMzkJEEM INITIAL FORM
zkKHAH INITIAL FORMzkYEH FINAL FORMzNOON FINAL FORMzREH FINAL FORMzYEH FINAL FORMzeISOLATED FORM
zZAIN FINAL FORMrHAL WITH SUPERSCRIPT ALEF ISOLATED FORMsEH WITH ALEF MAKSURA FINAL FORM
zoISOLATED FORMzbHEH MEDIAL FORMzbJEEM ISOLATED FORMzbMEEM FINAL FORMzgINITIAL FORMzhSOLATED FORM
zgMEDIAL FORMzbNOON FINAL FORMzbREH FINAL FORMzbYEH FINAL FORMzfISOLATED FORMzbZAIN FINAL FORM
qUIGHUR KIRGHIZ YEH WITH HAMZA ABOVE WITH ALEF MAKSURA FINAL FORMzzuINITIAL FORMzzvSOLATED FORM
qWASALLAM ISOLATED FORMqYEH WITH ALEF MAKSURA FINAL FORMznISOLATED FORMzHAH INITIAL FORM
zfSOLATED FORMzeWITH YEH FINAL FORMzcMZA ABOVE WITH AE FINAL FORMzuISOLATED FORMzsLEF FINAL FORM
zwISOLATED FORMzwMAKSURA FINAL FORMzzfISOLATED FORMzrE FINAL FORMztINITIAL FORMzuSOLATED FORM
zrHAH INITIAL FORMzwSOLATED FORMzsEH INITIAL FORMzvMEDIAL FORMzrJEEM INITIAL FORMzxSOLATED FORM
zrKHAH INITIAL FORMzrMEEM FINAL FORMzwINITIAL FORMzxSOLATED FORMzwMEDIAL FORMzrNOON FINAL FORM
zrOE FINAL FORMzuISOLATED FORMzrREH FINAL FORMzrU FINAL FORMztISOLATED FORMzrWAW FINAL FORM
zvISOLATED FORMzrYEH FINAL FORMzvISOLATED FORMzsU FINAL FORMzuISOLATED FORMzrZAIN FINAL FORM
zbEH INITIAL FORMzeMEDIAL FORMzJEEM INITIAL FORMzgSOLATED FORMzfWITH YEH FINAL FORM
zKHAH INITIAL FORMzgSOLATED FORMzMEEM FINAL FORMzfINITIAL FORMzgSOLATED FORMzfMEDIAL FORM
zfWITH MEEM FINAL FORMzpINITIAL FORMzkYEH FINAL FORMzNOON FINAL FORMzREH FINAL FORMzYEH FINAL FORM
zeISOLATED FORMzZAIN FINAL FORMqZAH WITH MEEM INITIAL FORMzgSOLATED FORMzfMEDIAL FORMhMADDA WAAJIB
mH ABOVEjRK NOON GHUNNAmSIDEWAYS NOON GHUNNAjTHEMATICAL AINvLEFuBEHuDADwLvOTLESS BEHzdFEHzdNOONzdQAF
wUBLE-STRUCK AINzjBEHzjDADzlLzjFEHzjGHAINzjHAHzjJEEMzjKHAHzjLAMzjMEEMzjNOONzjQAFzjREHzjSADzkEEN
zkHEENzjTAHzkEHzkHALzlEHzjWAWzjYEHzjZAHzlINuFEHuGHAINuHAHuINITIAL AINzdBEHzdDADzdFEHzdGHAINzdHAHzeEH
zdJEEMzdKAFzeHAHzdLAMzdMEEMzdNOONzdQAFzdSADzeEENzeHEENzdTEHzeHEHzdYEHuJEEMuKAFvHAHuLAMvOOPED AIN
zdLEFzcBEHzcDADzeLzcFEHzcGHAINzcHAHzdEHzcJEEMzcKHAHzcLAMzcMEEMzcNOONzcQAFzcREHzcSADzdEENzdHEENzcTAH
zdEHzdHALzeEHzcWAWzcYEHzcZAHzeINuMEEMuNOONuOPERATOR HAH WITH DALzeMEEM WITH HAH WITH TATWEELuQAFuREH
uSADvEENvHEENvTRETCHED AINzfBEHzfDADzgOTLESS BEHznFEHzfFEHzfGHAINzfHAHzgEHzfJEEMzfKAFzgHAHzfMEEM
zfNOONzfQAFzfSADzgEENzgHEENzfTAHzgEHzgHEHzfYEHzfZAHuTAHwILED AINzcDADzdOTLESS NOONzkQAFzcGHAINzcHAH
zcJEEMzcKHAHzcLAMzcNOONzcQAFzcSADzdEENzdHEENzcYEHvEHvHALwEHuWAWuYEHuZAHwINhNUMBER MARK ABOVEoSIGN
hOPEN DAMMATANmFATHATANmKASRATANhPERCENT SIGNiIASTRE MARK ABOVEiLACE OF SAJDAHiOETIC VERSE SIGN
jUND MARK ABOVEhQUESTION MARKhRAISED ROUND DOTjYiEVERSED DAMMAiIGHT ARROWHEAD ABOVEzd WITH DOTxBELOW
iOUNDED HIGH STOP WITH FILLED CENTREhSEMICOLONiHADDAn ISOLATED FORMoMEDIAL FORMiIGN ALAYHE ASSALLAM
mMISRAmRADI ALLAHOU ANHUoHMATULLAH ALAYHEmSAFHAoLLALLAHOU ALAYHE WASSALLAMoMVAToNAHnINDHI AMPERSAND
tPOSTPOSITION MENmTAKHALLUSiMALL DAMMAnFARSI YEHpTHAnHIGH AINsDOTLESS HEAD OF KHAHsFARSI YEH
tOOTNOTE MARKERsJEEMsLAM ALEFtIGATURE ALEF WITH LAM WITH YEHzcQAF WITH LAM WITH ALEF MAKSURA
zcSAD WITH LAM WITH ALEF MAKSURAsMADDAtEEM INITIAL FORMySOLATED FORMsNOONw WITH KASRAsQAF
sROUNDED ZEROsSADtEENtIGN SAFHAsTAHtHREE DOTSsUPRIGHT RECTANGULAR ZEROsWAWtORD AL-JUZyN-NISFyR-RUB
yS-SAJDAyTH-THALATHAxQIFxSAHzKTAxWAQFAsYEHv BARREE WITH TWO DOTS BELOWsZAHuINnKASRAnLOW MEEM
rNOON WITH KASRArSEENrWAWsORD IMAALAxSHMAAMwTASHEELnWAWnYEHiTART OF RUB EL HIZBiUBSCRIPT ALEFjKUN
m BELOWnISOLATED FORMnMEDIAL FORMjPERSCRIPT ALEF MOKHASSASiYMBOL DOT ABOVEsBELOW
qUBLE VERTICAL BAR BELOWoFOUR DOTS ABOVEyBELOWoRINGoSMALL TAH ABOVEyBELOWoTHREE DOTS ABOVEzBELOW
zPOINTING DOWNWARDS ABOVEztBELOWpWO DOTS ABOVExBELOWxVERTICALLY ABOVEzjBELOWoWASLA ABOVE
hTAIL FRAGMENTjTWEELo WITH FATHATAN ABOVEuOVERSTRUCK HAMZAzgWAWuTWO DOTS BELOWiHOUSANDS SEPARATOR
iONE LOOP ABOVErBELOWmONE DOT ABOVEuBELOWmTWO DOTS ABOVEvBELOWiRIPLE DOT PUNCTUATION MARK
iURNED DAMMA BELOWhVERTICAL TAILiOWEL SIGN DOT BELOWsINVERTED SMALL V ABOVEsSMALL V ABOVE
hWAVY HAMZA BELOWhZWARAKAYg-INDIC CUBE ROOTnDIGIT EIGHTtFIVEuOURtNINEtONEtSEVENuIXtTHREEuWOtZERO
nFOURTH ROOTnPER MILLE SIGNrTEN THOUSAND SIGNcCcIEScMENIAN ABBREVIATION MARKkPOSTROPHE
jCAPITAL LETTER AYByBENyCAzHAzbEHzOyDAyECHzHzTyFEHyGHADzIMyHOyINIyJAzHEHyKEHzbNyLIWNyMENyNOWyOHyPEH
zIWRyRAzEHySEHzHAyTIWNzOyVEWzOyXEHyYIzbWNyZAzHEkOMMAjDRAM SIGNjEMPHASIS MARKkXCLAMATION MARK
jFULL STOPjHYPHENjMODIFIER LETTER LEFT HALF RINGjQUESTION MARKjSMALL LETTER AYBwBENwCAxHAyEHxOwDA
wECHxHxTwFEHwGHADxIMwHOwINIwJAxHEHwKEHyNwLIWNwMENwNOWwOHwPEHxIWRwRAxEHwSEHxHAwTIWNxOxURNED AYBwVEWxO
wXEHwYIy WITH STROKEyWNwZAxHEqIGATURE ECH YIWNyMEN ECHzdINIzdNOWzdXEHyVEW NOW
cROW POINTING DOWNWARDS THEN CURVING LEFTWARDSznRIGHTWARDSpRIGHTWARDS THEN CURVING DOWNWARDS
zoSOUTH WESTzoUPWARDSpUPWARDS THEN NORTH WESTfHEAD-SHAPED POINTERcTICULATED LORRYeST PALETTE
bSCENDING NODEdIA SYMBOLcSERTIONcTERISKi OPERATORhMdONISHED FACEdRAEAeONOMICAL SYMBOL FOR URANUS
cYMPTOTICALLY EQUAL TObTHLETIC SHOEcOM SYMBOLbUBERGINEcSTRAL SIGNcTO RICKSHAWeMATED TELLER MACHINE
fOBILEbVESTAN ABBREVIATION MARKiLETTER AqArNrOqErEqNqOpBEqHEpCEpDEqHEpEqEpFEpGEqGEqHEpHEqMEpIqIpJE
pKEpLEpMEpNEqGErVErYEqNEqYEpOqOpPEpREpSEqHErYEqSHEpTEqHEqTEpUqUpVEpXEqVEqYEpYEqYEpZEqHEcOCADObXE
aBABYe ANGELfBOTTLEfCHICKfSYMBOLcCK OF ENVELOPEfWITH LEFTWARDS ARROW ABOVE
e-TILTED SHADOWED WHITE RIGHTWARDS ARROWeSLANTED SOUTH ARROW WITH HOOKED TAILzgRIZONTAL TAILfPACEdON
dTRIAN CAMELcDGERdMINTON RACQUET AND SHUTTLECOCKcGELdGAGE CLAIMdUETTE BREADcLINESE ADEG ADEG
jCARIK PAMUNGKAHrRERENpSIKIjDIGIT EIGHTpFIVEqOURpNINEpONEpSEVENqIXpTHREEqWOpZEROjLETTER AIKARArKARA
v TEDUNGrRCHAIC JNYArSYURA SASAKqBAs KEMBANGqCAs LACAqDAs MADUuURDA ALPAPRANAzMAHAPRANAqEF SASAK
rKARAqGAs GORAqHAqIKARAv TEDUNGqJAs JERAqKAs MAHAPRANAsF SASAKrHOT SASAKqLAs LENGAy TEDUNGqMAqNA
s RAMBATrGArYAqOKARAv TEDUNGqPAs KAPALqRAs REPAx TEDUNGqSAs SAGAvPAqTAs LATIKtMURDA MAHAPRANAtTAWA
rZIR SASAKqUKARAv TEDUNGqVE SASAKqWAqYAqZAL SASAKjMUSICAL SYMBOL COMBINING BENDEzjENDEPzjGONG
zjJEGOGANzjKEMPLIzp WITH JEGOGANznULzp WITH JEGOGANzjTEGEHyDAENGzbINGzbNGzd GEDEzeSURANGzENGzbUNG
zINGzONGzUNGyLEFT-HAND CLOSED PLAKzsUKzjOPEN PANGzpINGzpUNGyRIGHT-HAND CLOSED TAKzsUKzkOPEN DAGzqUG
jPAMADAp LANTANGmENENGlNTIo LANTANGjSIGN BISAHoCECEKoREREKANoSURANGoULU CANDRAsRICEM
jVOWEL SIGN LA LENGAzd TEDUNGuPEPETz TEDUNGuRA REPAzc TEDUNGuSUKUy ILUTuTALINGzb REPAzg TEDUNG
zcTEDUNGvEDUNGuULUx SARIjWINDUdL OF YARNeET SHOESeOONh-SPOKED ASTERISKfT BOLD SCRIPT XjX
k WITH BALLOTrOLD CHECKvSCRIPT XqCHECKqLIGHT XqSCRIPT XqXhSCRIPT XhXcMUM COLONiMBINING MARK KOQNDON
vTUKWENTISjMAgFULL STOPgLETTER AnEEnFAAMAEoEEoOMoUnInKAoENpTpUXoIoOpGHOMpVUUoPAoUoYEEnLAoEEEEoIoOQoU
nMoAoBAApENoEEEEpNoIoOoUnNAoDAAoGApGApKWAENoIoJAEMpEEpUAEoSHAoTEEpUUoUpAEoYInOnPAoEEpUXoHASE-A FIRI
vGBIEE FONwHEUAEGHEUAEzcRAEvKAFAxQwETxUKEUTNDAwPOQwUOQvLAPAQwET KUTwOMMAEwUxAEPvMAEKEUPyMzBGBIEE
zKPENzVEUXyNYIySIxNSUAExP PIEETwBANYIyQwEUNJOMNDEUQwGBASAwON NGGEUAETxOMEUTzPUQwVEUAENGAMvNAA MFONxQ
wDA LEERAEWAyANGGEUAETwENwGANGUxGENxKUE MFONzbNZEUMwIKAwJAMwKAARAExINDIwSHAyIEEwTAPz MFAAzbNTAA
xOQPENwYETxIyT MONGKEUAEQwZA MFONxUN MEUTvPA LEERAEWAxAMyRAExMSHAExSHAEwETwON MFON PIPAEMBAzlGBIEE
zPA NJI PIPAEMBAznGBIEEwUPvROMvSEUNYAMwHINDA PA NJIyRAExOQ NSHUT YUMxUENSHUETyMwISAwONJAMxQxTwUU
vTEUAENyTEUWENwITA MFONwU MAEMBAxAEPvU YUQ NAEwNKNOWNvVEEtB FEExUXvGHEUGHENzdUAEMvKAMwEUAEMyPUQyYEUX
wIEEMxQvLAANAExM NSHUT NYAMwETwOM NTEUMvMAx NJEUAENAzbUQAwBA MAELEEyARAExEURIxIT MBAAKETxUOQwEUQ
yT NGGEETwFIYAQxON TEUAEQwONTIEENvNDU NJAAwGGAAMyEU MBUyUOQzc LARGExKINDI MVOPxOMwSENxHUET
wTIEE SHEUOQwYAEMAExI NTEUMvPARUMwEESHIwITwUNGAAMvSAKEUAEwET TUwHET NJAQyUAEQTUwIEEwUEvTAAM
wU MAEMGBIEEyNSIEEvVEUMvWUAETvYAFU LEERAEWAwEURAEtC BUNGvFUEvGBAYIwHAPyRAEvKAAwEN FATIGUEzLAWxTxUKAQ
yMySEUXzHEUAEPwPARAQwUOP NKAARAExTvLAMxPwIQwUvMA KEUAERIyNSIEExEMBAySIwBAA CABBAGE-TREEzbPICKETyNYI
xEEKEETyRAEyUMzXxIyRIEENyTxUAEMyEwGBASAQwIEEwUAEvNANSANAQxQwDAMyPxEUAEREEzTxIDAxOMBUwGAQxGENyU
zAEN NYAMzEETzMzONxKAQyUE MAEMBAxOMwJAEMyMxEEEEyUXxUEQwSAxEUAENxHAQxOMxUNyOT NGOMwTAAxENyUNGBA
xU MBITwYIR MKPARAQ MEUNwZAxEUMvPENwINxRIEENvRUvSETFONxUXwHIQxUEQwUAETvTAASHAEwETxUTEUXwITA YUEyUAEP
vVEUAEPENyXvWANGKUOQwUPvYAAwEUQwU MUOMAExMxWOQtD FAAwEUFEUAETvGHAAxEUAEvKETxUAETMEUNyMyOT MBUAEyPwU
xNxOMxQwWAETwYEEvLEEEExTxUAEPyMwIEEwOQwUMvMwAENJETxLEERIwBAAz SEVENxUOwEEEExUNyTwFEUAEzTxIEExOyN
wGBEUNyIEEyOFUMwONIwUwVOPvNDAMxEEyUXxONwGGAAMzcAEzPyEUXyUOMyWAENxKAPyEUAEQzbRIyIEEyUNyYEEwIwJAP
xEUAEMzTxIyEExUEQwSHEEyUTxIEEPzbTxUMwTEEyUMxUUwUwYAMxETxIxUEvPAPwEExUTAEwIPwUQxUTvRAEMwEN MUCHzOLD
wIIvSAPxQwEUAEQwHEEyUAEzXxIIxOQxUwOTwUAExExUvTAEwEEEExUAENyNyTwIwOQwUxOTvWAPwUAENvYAEMMAEwENwUOMyP
xWOQtE AvFAxQwEEwOMwU CALLyIyREMEDYxEyTvGBETyUXwHAAMAExETyUAEzNzXxOMvIvKETxUAEyXwIwOwPEUXwUETxOPxT
vLAAMxPxQwEUAEMwOMxONyTxQwUvMAxEyMxPxQwBEEyUMwENwFEUQwGBAyENwIxEEwONwUAEwVIvNAxEwDAA MY HOUSE
zbSOFTNESSyPxIAQyQxUNwGAxEUREUTxGEEEEzUAEzdTyUAESHAE NYAMzPzRAExKAzAMIyEUAEMzbXyUMzPxOPyQxUAEzbT
wJAEMLIxEEz EPOCHyUXwKOMwSHIEEyUEzOPwTAPxUMwYI BETWEENzCLEAVERwZAQxUQvOvPA PEOPLEzLURALxAyMwEEMxUTyX
wIxEEQyTwOxONwUxAEyQxExMvRAExQwEUXwIMGBAvSAAwEExTwHEUAEQxIQxOyQwOMwUAENvTAAyQxEN NTEUMxMxQwENxUyAEQ
wOOyNxQwUAExMyAEvVEExUAEwOMvWEUXwUExOvYAPwEUAEzbTyMyXwIEExTwOQ COVERzSWIMMINGwUAENxEQxNxQtF EEvFOM
vKAwENxTwOwPAwUwYEEvLAwIwOQvMwAwBAAxENwEEEEwOvNDAAwGGAxKWAENwIwJAEMxUAEwSHAwTEEwUxAEwYIvPEExUXwUAE
vREExNxUXwIEExIwUvSAMBAwEUXwHIIxOxUwIwUUvTAAxEwETvUvVUEQvWAwUEvYAwOQoIoUAEpEnRAEoEEpNpUXoIEEpIoU
nSAMBAoEUXoHEUXpIIpOpUoIoUUnTAApEoENpToInUnWAoUEnYAoOQoUQgNJAEMLIgQUESTION MARKgSEMICOLONcNANAdJOdK
eNOTE WITH DOLLAR SIGNoEURO SIGNoPOUND SIGNoYEN SIGNcR CHARTeOF SOAPdBER POLEcSEBALLdKET
gBALL AND HOOPdSA VAH COMBINING HIGH TONEy-LOW TONEuLOW TONEx-MID TONEuMID TONEkFULL STOPkLETTER A
rBArCErDHIIsOrEsEsNNIrFArGAHsBUrHWAHrIrJOrKAsPAHrMBErOsOrPArSErTOrUsWUrVUrWAtDDArYEINsIErZOcT
dAK CONSONANT SIGN HvNGgLETTER AnBAnCAnDAnGAnHAnInJAnKARO BAnLAnMApNDAILING HAyNAySAoBAnNAoDAoGA
oORTHERN TAoYAnPApKPAK WAnRAnSAoIMALUNGUN AyGAyHAyLAyMAyPAyRAySAyWAyYAoOUTHERN TAnUnWAnYAgPANGOLAT
jONGONANgSIGN TOMPIhYMBOL BINDU JUDULtNA METEKtPANGOLATuINARBORASgVOWEL SIGN EsErIrKARO IwOrO
rPAKPAK ErUs FOR SIMALUNGUN SAdHeTUBdTERYbEACH WITH UMBRELLAdMED ASCENDING MUSICAL NOTES
hDESCENDING MUSICAL NOTEShEIGHTH NOTEShSIXTEENTH NOTESdNSdR FACEeDED PERSONdTING HEARTdVERcCAUSEcD
cER MUGdTLEcLdLe PEPPERfSYMBOLfWITH CANCELLATION STROKEeHOP BELLcNGALI ABBREVIATION SIGNjNJI
jU LENGTH MARKiCURRENCY DENOMINATOR SIXTEENrNUMERATOR FOURzcONEzf LESS THAN THE DENOMINATORzcTHREE
zdWOiDIGIT EIGHToFIVEpOURoNINEoONEoSEVENpIXoTHREEpWOoZEROiGANDA MARKiISSHARiLETTER AqAqIqUpBAqHApCA
qHApDAqDArHAqHApEpGAqHApHApIqIpJAqHApKAqHAsNDA TApLApMApNAqGAqNAqYApOpPAqHApRAr WITH LOWER DIAGONAL
xMIDDLE DIAGONALqHAqRApSAqHAqSApTAqHAqTArHApUqUpVEDIC ANUSVARAqOCALIC LyLxRyRpYAqYAiRUPEE MARKoSIGN
iSANDHI MARKjIGN ANUSVARAoVAGRAHAnCANDRABINDUnNUKTAnVIRAMApSARGAiVOWEL SIGN AAuIuUtEtIuItOtUuU
tVOCALIC LzdLzcRzdRdT ARROW POINTING DOWNWARDS THEN NORTH EASTeO BOXdZENE RINGm WITH CIRCLEcT SYMBOL
dWEENcVERAGE BOXbHAIKSUKI DANDAlIGIT EIGHTqFIVErOURqNINEqONEqSEVENrIXqTHREErWOqZEROlOUBLE DANDA
kGAP FILLER-1v2kHUNDREDS UNIT MARKkLETTER AsAsIsUrBAsHArCAsHArDAsDAtHAsHArErGAsHArHArIsIrJAsHArKAsHA
rLArMArNAsGAsNAsYArOrPAsHArRArSAsHAsSArTAsHAsTAtHArUsUrVAsOCALIC LzRzbRrYAkNUMBER EIGHTwYrFIFTYtVE
sORTYtURrNINEvTYrONErSEVENwTYsIXuTYrTENsHIRTYtREEsWENTYtOkSIGN ANUSVARAqVAGRAHApCANDRABINDUpVIRAMA
rSARGAkVOWEL SIGN AAwIwUvEvIwIvOvUwUvVOCALIC LzeRzfRkWORD SEPARATORbICYCLEgISTcG REVERSE SOLIDUS
eSOLIDUScKINIcLLED CAPeIARDScOHAZARD SIGNcRDdTHDAY CAKEcSONcTCOIN SIGNdING LIPbLACK BOWTIE
gCENTRE WHITE STARhHESS BISHOPs ROTATED NINETY DEGREESzcTWO HUNDRED SEVENTY DEGREESmEQUIHOPPER
w ROTATED NINETY DEGREESmKINGq ROTATED NINETY DEGREESzTWO HUNDRED SEVENTY DEGREESnNIGHT
s ROTATED FORTY-FIVE DEGREESzcNINETY DEGREESzcONE HUNDRED THIRTY-FIVE DEGREES
zcTHREE HUNDRED FIFTEEN DEGREESzdWO HUNDRED SEVENTY DEGREESzoTWENTY-FIVE DEGREESs-BISHOPtQUEENtROOK
mPAWNq ROTATED NINETY DEGREESzTWO HUNDRED SEVENTY DEGREESmQUEENr ROTATED NINETY DEGREES
zbTWO HUNDRED SEVENTY DEGREESmROOKq ROTATED NINETY DEGREESzTWO HUNDRED SEVENTY DEGREESmTURNED BISHOP
tKINGuNIGHTtPAWNtQUEENtROOKhIRCLEm FOR RECORDnWITH DOWN ARROWsTWO WHITE DOTSsWHITE DOT RIGHT
hLUB SUIThROSS ON SHIELDhURVED DOWNWARDS AND LEFTWARDS ARROWzcRIGHTWARDS ARROW
nLEFTWARDS AND DOWNWARDS ARROWzcUPWARDS ARROWnRIGHTWARDS AND DOWNWARDS ARROWzdUPWARDS ARROW
nUPWARDS AND LEFTWARDS ARROWzRIGHTWARDS ARROWgDIAMONDn CENTREDoMINUS WHITE XoON CROSSoSUIT
oWITH DOWN ARROWhOWN POINTING BACKHAND INDEXk-POINTING DOUBLE TRIANGLEuISOSCELES RIGHT TRIANGLE
uSMALL TRIANGLEuTRIANGLEkWARDS EQUILATERAL ARROWHEADhRAUGHTS KINGpMANiOPLETgFLAGiORETTEhOLDER
iUR POINTED STARgHARD SHELL FLOPPY DISKhEARTl SUITiXAGONhORIZONTAL ELLIPSEiURGLASSgLARGE CIRCLE
mSQUAREhEFT LANE MERGElPOINTING BACKHAND INDEXuINDEXk-POINTING DOUBLE TRIANGLEzk WITH VERTICAL BAR
uISOSCELES RIGHT TRIANGLEuPOINTERuSMALL TRIANGLEuTRIANGLEkWARDS BULLETqEQUILATERAL ARROWHEAD
hOWER LEFT TRIANGLEmRIGHT TRIANGLEiZENGEgMEDIUM DIAMONDoOWN-POINTING TRIANGLEzk CENTRED
nLEFT-POINTING TRIANGLEzk CENTREDoOZENGEnRIGHT-POINTING TRIANGLEzl CENTREDnSMALL DIAMONDtLOZENGE
tSQUAREoQUAREnUP-POINTING TRIANGLEzi CENTREDhOON LILITHgNIBgOCTAGONgPARALLELOGRAMhENNANTjTAGON
hUSHPINgQUESTION MARK ORNAMENTgRECTANGLEhIGHT POINTING BACKHAND INDEXvINDEX
l-POINTING DOUBLE TRIANGLEzl WITH VERTICAL BARvISOSCELES RIGHT TRIANGLEvPENTAGONwOINTER
vSMALL TRIANGLEvTRIANGLEze WITH DOUBLE VERTICAL BARlWARDS ARROWwHEADrBULLETrEQUILATERAL ARROWHEAD
hOSETTEgSAFETY SCISSORShCISSORShHOGI PIECEhKULL AND CROSSBONEShLIGHTLY SMALL CIRCLEvSQUARE
hMALL DIAMONDmLOZENGEmSQUAREnTARiILING FACEhNOWMANhPADE SUIThQUAREm BUTTONnCENTREDnFOR STOPhTAR
hUN WITH RAYSgTELEPHONEhINY DIAMONDlLOZENGElSQUAREhOUCHTONE TELEPHONEhRUCKhWO-WAY LEFT WAY TRAFFIC
gUNIVERSAL RECYCLING SYMBOLhP POINTING BACKHAND INDEXi-POINTING DOUBLE TRIANGLE
sISOSCELES RIGHT TRIANGLEsSMALL TRIANGLEsTRIANGLEiPER LEFT TRIANGLEmRIGHT TRIANGLE
iWARDS EQUILATERAL ARROWHEADgVERTICAL ELLIPSEpRECTANGLEjY SMALL DIAMONDrLOZENGErSQUARE
f-FEATHERED NORTH EAST ARROWqRIGHTWARDS ARROWqSOUTH EAST ARROWgLETTER CAPITAL CvHvIvRvZdNK SYMBOL
cOCK SEXTANT-1p2q3r4s5s6r5s6r6q4r5s6r6q5r6q6p3q4r5s6r6q56q6p4q5r6q6p5q6p6o2p3q4r5s6r6q5r6q6p4q5r6p5
q6p6o3p4q5r6q6p5q6p6o4p5q6p6o5p6o6dSSOMdWFISHcUE BOOKfHEARTeBERRIESbOARcLD EIGHT SPOKED ASTERISK
fFIVE SPOKED ASTERISKfGREEK CROSSfSALTIREgIX SPOKED ASTERISKfWHITE CIRCLElSQUAREcMdBcNEcOKeMARK
i TABSeSdMERANGcPOMOFO FINAL LETTER GwHwKwPwTjLETTER ArHrIsNNrMrNsGsNrUsNNqBrUqCrHqDqErErHrIrNsGsNrR
qFqGrHrNrUrWqHqIrHrMrNNtNrRrUqJrIqKrWqLrHqMqNrGsGrNqOr WITH DOT ABOVErErMrNGsNrOrUqPqQqRqSrHqTqUrNN
qVqXqZrHrIrYcTTLE WITH POPPING CORKeOM ARC ANTICLOCKWISE ARROWhCURLY BRACKEThHALF BLACK CIRCLE
mINTEGRALmLEFT PARENTHESISmRIGHT PARENTHESIShLEFT CORNERnROPmHALF BRACKEThPARENTHESIShRIGHT CORNER
oROPnHALF BRACKEThSQUARE BRACKETv OVER TOP SQUARE BRACKEThTORTOISE SHELL BRACKETcUQUETh OF FLOWERS
cW AND ARROWdL OF HYGIEIAfWITH SPOONeINGdTIEg WITH LEFT HALF BLACKmRIGHT HALF BLACK
cX DRAWINGS DOUBLE DOWN AND HORIZONTALzeLEFTzeRIGHTuHORIZONTALuUP AND HORIZONTALzcLEFTzcRIGHT
uVERTICALzd AND HORIZONTALziLEFTziRIGHTpWN DOUBLE AND HORIZONTAL SINGLEzeLEFT SINGLEzeRIGHT SINGLE
sHEAVY AND HORIZONTAL LIGHTzdLEFT LIGHTziUP LIGHTzdRIGHT LIGHTzjUP LIGHTzdUP HORIZONTAL LIGHT
sLIGHT AND HORIZONTAL HEAVYzdLEFT HEAVYziUP HEAVYzdRIGHT HEAVYzjUP HEAVYzdUP HORIZONTAL HEAVY
sSINGLE AND HORIZONTAL DOUBLEzeLEFT DOUBLEzeRIGHT DOUBLEnHEAVY DOUBLE DASH HORIZONTALzgVERTICALvWN
x AND HORIZONTALzdLEFTzdRIGHTtHORIZONTALtLEFTx AND LIGHT RIGHTtQUADRUPLE DASH HORIZONTALzjVERTICAL
tRIGHTtTRIPLE DASH HORIZONTALzgVERTICALtUPv AND HORIZONTALzbLEFTzcIGHT DOWNzbRIGHTtVERTICAL
zc AND HORIZONTALzhLEFTzhRIGHTnLEFT DOWN HEAVY AND RIGHT UP LIGHTsHEAVY AND RIGHT DOWN LIGHT
zjUP LIGHTzjVERTICAL LIGHTsLIGHT AND RIGHT DOWN HEAVYzjUP HEAVYzjVERTICAL HEAVY
sUP HEAVY AND RIGHT DOWN LIGHToIGHT ARC DOWN AND LEFTzhRIGHTxUP AND LEFTzfRIGHTtDIAGONAL CROSS
zdDIAMONDzdMIDDLE LEFT TO LOWER CENTREzzf TO MIDDLE RIGHTzsUPPER CENTRE TO MIDDLE RIGHT
zzv TO LOWER CENTREzkRIGHT TO LOWER CENTREztUPPER CENTRE TO MIDDLE LEFT TO LOWER CENTRE
zdUPPER CENTRE TO MIDDLE LEFTzzf AND MIDDLE RIGHT TO LOWER CENTREzzgTO LOWER CENTRE
zzv TO MIDDLE RIGHTzzbRIGHTzzg AND MIDDLE LEFT TO LOWER CENTREzzhTO LOWER CENTREzzw TO MIDDLE LEFT
zjLEFT TO LOWER RIGHTzjRIGHT TO LOWER LEFTuOUBLE DASH HORIZONTALzgVERTICALvWNx AND HORIZONTALzdLEFT
zdRIGHTtHORIZONTALze WITH VERTICAL STROKEtLEFTx AND HEAVY RIGHTtQUADRUPLE DASH HORIZONTALzjVERTICAL
tRIGHTtTRIPLE DASH HORIZONTALzgVERTICALtUPv AND HEAVY DOWNzcORIZONTALzbLEFTzbRIGHTtVERTICAL
zc AND HORIZONTALzhLEFTzhRIGHTnRIGHT DOWN HEAVY AND LEFT UP LIGHTtHEAVY AND LEFT DOWN LIGHT
zjUP LIGHTzjVERTICAL LIGHTtLIGHT AND LEFT DOWN HEAVYzjUP HEAVYzjVERTICAL HEAVY
tUP HEAVY AND LEFT DOWN LIGHTnUP DOUBLE AND HORIZONTAL SINGLEzcLEFT SINGLEzcRIGHT SINGLE
qHEAVY AND DOWN HORIZONTAL LIGHTzbHORIZONTAL LIGHTzbLEFT DOWN LIGHTzgLIGHTzbRIGHT DOWN LIGHTzhLIGHT
qLIGHT AND DOWN HORIZONTAL HEAVYzbHORIZONTAL HEAVYzbLEFT DOWN HEAVYzgHEAVYzbRIGHT DOWN HEAVYzhHEAVY
qSINGLE AND HORIZONTAL DOUBLEzcLEFT DOUBLEzcRIGHT DOUBLEnVERTICAL DOUBLE AND HORIZONTAL SINGLE
ziLEFT SINGLEziRIGHT SINGLEwHEAVY AND HORIZONTAL LIGHTzhLEFT LIGHTzhRIGHT LIGHT
wLIGHT AND HORIZONTAL HEAVYzhLEFT HEAVYzhRIGHT HEAVYwSINGLE AND HORIZONTAL DOUBLEziLEFT DOUBLE
ziRIGHT DOUBLEdING GLOVEcYdS SYMBOLbPHbRAHMI DANDAiIGIT EIGHTnFIVEoOURnNINEnONEnSEVENoIXnTHREEoWO
nZEROiOUBLE DANDAhLETTER ApApIpUoBApHAoCApHAoDApDAqHApHAoEoGApHAoHAoIpIoJApHAoKApHAoLApLAoMAoNApGA
pNApYAoOpLD TAMIL LLAzbLAyNNNAyRRAySHORT EzfOoPApHAoRAoSApHApSAoTApHApTAqHAoUpUoVApOCALIC LxLwRxRoYA
hNUMBER EIGHTtYoFIFTYqVEpORTYqURoJOINERoNINEsTYoONEr HUNDREDsTHOUSANDoSEVENtTYpIXrTYoTENpHIRTYqREE
pWENTYqOhPUNCTUATION CRESCENT BARtDOTvUBLE DOTtLINEuOTUShSIGN ANUSVARAmCANDRABINDUmJIHVAMULIYA
mOLD TAMIL VIRAMAmUPADHMANIYAmVISARGAhVIRAMAiOWEL SIGN AAtItUsBHATTIPROLU AAsEsItIsO
tLD TAMIL SHORT EzjOsUtUsVOCALIC LzcLzbRzcRdILLE PATTERN BLANKeNcEADeK PERMITTED HEREeST-FEEDINGdVE
cICKdDE WITH VEILeGE AT NIGHTdEFCASEfScOCCOLIdKEN BARhCIRCLE WITH NORTHWEST ARROWhHEARTdOMdWN HEART
bSbUBBLE TEAgScCKETcGdINESE END OF SECTIONjLETTER AqBAqCAqDAqGAqHAqJAqKAqLAqMArPAqNArGAsKArRArYAsCA
qPAqRAqSAqTAqVAqYAjPALLAWAjVOWEL SIGN AEuEuIuOuUcHID LETTER AnBAnDAnGAnHAnInKAnLAnMAnNAoGAnPAnRAnSA
nTAnUnWAnYAgVOWEL SIGN IrUcILDING CONSTRUCTIONcLLETg OPERATOReHORNi WITH SOUND WAVESeSEYEcRRITOcS
d STOPdT IN SILHOUETTEeS IN SILHOUETTEcTTERgFLYbYTE ORDER MARKcZANTINE MUSICAL SYMBOL AGOGI ARGI
zjOTERIzgGORGIzkOTERIzgMESIziTRIAzgPOLI ARGIzlGORGIzbNATRICHISMAzcTIKENOKYLISMAziMA
zbPESO EKFONITIKONzhXO NEOzcLIzcODERMA ARCHAIONzjNEOzdSTROFOI SYNDESMOS NEOzlTELOUS ICHIMATOSzjS
zk DIPLIzlNEOzdTHEMAzbRGONzeSYNTHETONzcKTIKO DIziGAziKEziNIziPAziVOUziZOzCHAMILIzgON
zcOREVMA ARCHAIONzjNEOzcROA KLITONzgSPATHIzgZYGOSzDASEIAzbIARGONzdSTOLI APLI MEGALIzpIKRIzjDIPLI
zjTHESEOSzcESIS APLI DYO DODEKATAzhDIGRAMMOS EX DODEKATAzhMONOGRAMMOS TESSERA DODEKATA
zhTETARTIMORIONziRIGRAMMOS OKTO DODEKATAzkTIMORIONzcFTOGGOS OUzcGORGONzi PARESTIGMENON ARISTERA ANO
zzhKATOzxDEXIAzdRAMMA GGzcPLIzf ARCHAIONzbYOzEKSTREPTONzbLAFRONzbNARXIS KAI FTHORA VOUzcDOFONON
zbPEGERMAzbTERON ARGOSYNTHETONzhPARAKALESMAzbXO EKFONITIKONzFANEROSIS DIFONIASzkMONOFONIAS
zkTETRAFONIASzbHTORA SKLIRON CHROMA VASISzbTHORA ARCHAIONzp DEYTEROU ICHOUzhDIATONIKI DIzrKEzrNANA
zsI ANOzuKATOzrPAzrZOzhENARMONIOS ANTIFONIAzhI YFESIS TETARTIMORIONzhMALAKON CHROMA DIFONIAS
zwMONOFONIASzhNAOS ICHOSziENANOzhSKLIRON CHROMA SYNAFIzwVASISzpDIATONON DIzGENIKI DIESISzhYFESIS
zbORGON ARCHAIONzhNEO ANOzlKATOzhPARESTIGMENON ARISTERAzvDEXIAzfSYNTHETONzdTHMIKON N APLOUNznDIPLOUN
zbRONTHISMATAzICHADINzbMIDIARGONzdFONONzeTHORAziONzbSAKIA TELOUS ICHIMATOSzcON ARCHAIONzfNEO
zKATAVA TROMIKONzgSMAzdHISTIzbENTIMA ARCHAIONziNEO ANOzmKATOzmMESOzhTAzj ARCHAIONzkNEO ANOzoKATO
zoMESOzbLASMAzg ANOzhKATOzbONTEVMAzi ALLOzcRONISzcUFISMAzbRATIMA ALLOzjRCHAIONziNEOzhTAzgOKOUFISMA
zhYPORROONzcEMASTIzbYLISMAzLEIMMA DYO CHRONONzhENOS CHRONOUzhIMISEOS CHRONOUzhTESSARON CHRONON
ziRION CHRONONzcMOIzbYGISMAzMARTYRIA ALLI DEYTEROS ICHOSzoPROTOS ICHOSzjDEYTEROS ICHOS
zjLEGETOS ICHOSzjPLAGIOS ICHOSzrTETARTOS ICHOSzkROTOS ICHOSzoVARYS ICHOSzjTETARTOS ICHOS
zsLEGETOS ICHOSzkRIFONIASzmTOS ICHOSzjVARYS ICHOSzbIKRON ISONzNANAzOLIGON ARCHAIONzhNEOzbMALON
zbXEIA DIPLIzgEKFONITIKONzgNEOzfI ARCHAIONzbYRANISMA ARCHAIONzkNEOzPARAKALESMA ARCHAIONzmNEOzfLITIKI
zl ARCHAIONzmNEOzdICHONzbELASTONzi NEOzcRISPOMENIzcTASMAzfTIzgOKOUFISMAzbIASMA ARCHAIONzhNEO
zbSIFISTOLYGISMAziNzj NEOziPARAKALESMAziSYNAGMAzdLIzeONzRAPISMAzbEVMAzSAXIMATAzbEISMAzg NEO
zbIMANSIS ARSEOSzp DISIMOUzqTETRASIMOUzrRISIMOUzjTHESEOSzq DISIMOUzrTETRASIMOUzsRISIMOUzbTAVROS
zh APODEXIAzcIGMAzcRAGGISMATAzbYNAGMA ARCHAIONziMETA STAVROUziNEOzdEVMAzcRMAzfTIKIzTELEIAzcSSERA
zcTRAPLIzbHEMAzf APLOUNzfTISMOS ESOznXOzdS KAI APOTHESzcITAzbINAGMAzbRIAzdGORGONzdPLIzcOMIKOLYGISMA
zhN ALLOzkRCHAIONzjNEOzhPARAKALESMAziSIFISTONzhSYNAGMAzVAREIA DIPLIzhEKFONITIKONzhNEOzgI ARCHAION
zcTHYzXIRON KLASMAzYFEN ANOzfKATOzdSIS APLI DYO DODEKATAzhDIGRAMMOS EX DODEKATA
zhMONOGRAMMOS TESSERA DODEKATAzhTRIGRAMMOS OKTO DODEKATAzkTIMORIONzbPOKRISISzj DIPLIzdRROIzcSILI
aCACTUScDA UNAdUCEUScLENDARdL ME HANDcMERAg WITH FLASHdPINGcNdADIAN SYLLABICS AuAvIvYuIvVILIK BuN
uTHAPASCAN MzfSuYtBEAVER DENE LzgRuIBLE-CREE YuLACKFOOT AzeEzeIzeKAzfEzfIzfOzeNAzfEzfIzfOzeOzeSzeW
zfAzfEzfIzfOtCuAvAwIvRRIER CHAzeEzfEzeIzeOzeUzcDEEzeNE GEEzfTAL SzdIzdLAzeEzfEzeIzeOzeUzdZAzeEzfEzeI
zeOzeUzcEEzcGAzeAzdEzeEzdHAzeEzfEzeIzeOzeUzdIzdOzdUzdWAzeUzcHzdEEzdIzdWAzeEzfEzeIzeOzeUzcIzdNITIAL Z
zcJAzdEzeEzdIzdJAzeEzfEzeIzeOzeUzdOzdUzdWAzcKHAzeEzfEzeIzeOzeUzdKzeAzeEzfEzeIzeOzeUzcLAzdEzeEzdHAzeE
zfEzeIzeOzeUzdIzdOzdUzcMAzdEzeEzdIzdOzdUzcNAzdEzeEzdGzdIzdOzdUzcPzdAzdEzeEzdIzdOzdUzcRAzdEzeEzdIzdO
zdUzcSAzdEzeEzdHzeAzeEzfEzeIzeOzeUzdIzdOzdUzcTHAzeEzfEzeIzeOzeUzdLAzeEzfEzeHAzfEzgEzfIzfOzfUzeIzeO
zeUzdSAzeEzfEzeIzeOzeUzdTAzeEzfEzeIzeOzeSAzfEzgEzfIzfOzfUzeUzcWAzdEzeEzdIzdOzdUzcYAzdEzeEzdIzdOzdU
zcZzdAzdEzeEzdIzdOzdUuEuHI SIGNuIvIuOvOuWAwAvEvIwIvOwOtEuASTERN WuNtFuAvAwIuEuIvIvNAL ACUTE
zBOTTOM HALF RINGzDOUBLE ACUTEzhSHORT VERTICAL STROKESzcWN TACKzGRAVEzMIDDLE DOTzPLUSzRAISED DOT
zbIGHT HALF RINGzcNGzSHORT HORIZONTAL STROKEzbMALL RINGzTOP HALF RINGuOvOuULL STOPuWAAtGLOTTAL STOP
tHKuYPHENtIuIuNtKuAvAwIvYuEuIvIuOvOuWvAwAwYvEvIwIvOwOtLuAvAwIvYuEuHvAwAvIwIvOwOuIvIuOvOuWAwAvEvIwIvO
wOtMuAvAwIvYuEvDIAL LzbRuHuIvIuOvOwSE-CREE SKuWAwAvEvIwIvOwOtNu-CREE THEzdIzeIuAvAwIvSKAPI CWAA
zcKWAAzcMWAAzcNWAAzcS-WzdCWAzdKWzfAzdPWAzdTWAzdWAAzcTWAAzcWAAzdOOzcYWAAvTTILIK HAzfAzeIzfIzeOzfO
zdSHRAzhAzgIzhIzgOzhOvYuEuGvAwAxIwIvIwIvOwOuHuIvIuNGwAxAwIxIwOxOuOvOvYuUNAVIK HzdAzeAzdEzdIzeIzdOzeO
yUT HuWAwAvEvIwIvOwOtOuJIBWAY CzcKzcMzcNzdWIzfIzeOzfOzcPzcSzdHzcTuNuOuYtPuAvAwIvYuEuIvIuOvOvYuWAwAvE
vIwIvOwOwYtQuAvAwIvIuIvIuOvOtRu-CREE REzcWEuAvAwIvYuEuIvIuOvOuWAwAvEEvIwIvOwOtSuAvAwIvYwISI HAzcEzcI
zcOzdOzbJIzcUzdUzbMzbSHAzdEzdIzdOzeOzdWEzbTHzbYIuEuHvAwAwYvEvIwIvOwOwYvWAxAwEwIxIwOxOxYuIvIuOvO
vUTH-SLAVEY KAHziEHziIHziOHvYuPAvEvIvOuWvAwAvEvIwIvOwOtTuAvAwIvYuEuHv-CREE THzeAzfAzeEzeIzfIzeOzfOvA
wAvEvIwIvOwOvWAxAwEuIvIuLHAwEwIwOxOwWEuOvOuTAvEvHwAxAwEwIwOxOwWEvIvOuWAwAvEvIwIvOwOuYAvEvIvOtWAvAvY
uEvST-CREE CWAzhAzgEzgIzhIzgOzhOzeFWAAzeKWAzhAzgEzgIzhIzgOzhOzeLzfAzgAzfEzfOzgOzfWAzhAzgEzgIzhIzgO
zhOzeMzfWAzhAzgEzgIzhIzgOzhOzeNWAzhAzgEzePzfWAzhAzgEzgIzhIzgOzhOzeRzfAzfEzfIzfOzfWAAzeSHWAziAzhEzhI
ziIzhOziOzfWAzhAzgEzgIzhIzgOzhOzeTHWAAzfWAzhAzgEzgIzhIzgOzhOzeWAzgAzfEzfIzgIzfOzgOzeYzfWAzhAzgEzgI
zhIzgOzhOxERN WuIvIuOvOwDS-CREE FINAL THzfTHzhAzhEzhIzhOzhWAzjAziEEziIzjIziOzjOtYu-CREE COOzbKOO
zbLOOzbMOOzbNOOzbOOzbPOOzcWAAzbSOOzbTOOzbWzbYOOuAvAwIvYuEuIvIuOvOvYuWAwAvEvIwIvOwOdCELg CHARACTER
hTAGgLATION XfRdDLEeYdNED FOODdOEcPITULUMdRICORNcR SLIDINGdD FILE BOXfINDEXk DIVIDERSdE OFeT
f INSERTION POINTdIAN LETTER Ap2oBoC-18q39oDp2oEp2oGp2oIpIoKp2oLpDq2oMpBq2q3q4oNpDpGpNoOoPp2oQoRpRoS
pHq2pSpTq2oTpTq2oUpUqUr2r3rUoXdONeUSEL HORSEdP STREAMEReENTRY SAWdRIAGE RETURNeOTcSTLEcTd FACE
i WITH TEARS OF JOYoWRY SMILEcUCASIAN ALBANIAN CITATION MARKtLETTER ALTzcORzbBETzbCARzdYNzcHAzeTzdI
zdOYzcYAWzeYzbDATzcYANzcZAYzdYAYzbEBzcYNzbFAMzbGHEYSzcIMzbHEYTzbINYAzcRBzcWNzbJAYNzcHOXzbKARzcIW
zbLANzcYITzbMAQzbNOWCzbONzbPENzcIWRzbQARzdYzbRATzbSEYKzcHAzeKzdOYzbTASzcIWRzcYAYzbVEYZzbXEYNzbYAYD
zcOWDzbZARLzcHAzdILdTION SIGNbCHbEDI SIGNeLLAcLTIC CROSScNT SIGNeRE LINE SYMBOLgLINE LOW LINE
lOVERLINEcRESbGJbHAINSeRdKMA AU MARKhDANDAiIGIT EIGHTnFIVEoOURnNINEnONEnSEVENoIXnTHREEoWOnZERO
iOUBLE DANDAhLETTER AAoBAApHAAoCAApHAAoDAApDAAqHAApHAAoEoGAApHAAoHAAoIoJAApHAAoKAApHAAoLAApHAAoMAA
oNAApGAApNAApYAAoPAApHAAoRAAoSAAoTAApHAApTAAqHAAoUoVAAoWAAoYAApYAAhMAAYYAAhO MARKhQUESTION MARK
hSECTION MARKiIGN ANUSVARAmCANDRABINDUmVISARGAhVIRAMAiOWEL SIGN AtAtItUsEtIsItIsOtIsUtU
dM CONSONANT SIGN FINAL HzbMzbNGuLAuRAuWAuYAfDIGIT EIGHTlFIVEmOURlNINElONElSEVENmIXlTHREEmWOlZERO
fLETTER AnImBAnBAnHAmCHAoHAmDAnDAnHAmEmFINAL CHsGsKsLsNtGsPsRsSSsTsYmGAnHAmHAmImJAnHAmKAnHAmLAmMAnUE
mNAnGAoUEnHAoJAoUEnUEmOmPAnHAnPAmRAmSAnSAmTAnHAmUmVAmYAfPUNCTUATION DANDAsOUBLE DANDArSPIRAL
rTRIPLE DANDAfVOWEL SIGN AArIrUqEIqIrIqOrEqUrEdRACTER TABULATIONu SETvWITH JUSTIFICATIONlIE
eT WITH DOWNWARDS TRENDlUPWARDS TRENDy AND YEN SIGNcECK MARKfER BOARDn FILLdERING MEGAPHONEeSE WEDGE
dQUERED FLAGdROKEE LETTER AqDArErIrLArOrUrVqEqGArErIrOrUrVqHArErIrNArOrUrVqIqKAqLArErIrOrUrVqMArErI
rOrUrVqNAsHrErIrOrUrVqOqQUAsEsIsOsUsVqSrArErIrOrUrVqTArErIrLAsEsIsOsUsVrSAsEsIsOsUsVqUqVqWArErIrOrU
rVqYArErIrOrUrVjSMALL LETTER AwDAxExIxLAxOxUxVwEwGAxExIxOxUxVwHAxExIxNAxOxUxVwIwKAwLAxExIxOxUxVwMAxE
xIxOxUxVwNAyHxExIxOxUxVwOwQUAyEyIyOyUyVwSxAxExIxOxUxVwTAxExIxLAyEyIyOyUyVxSAyEyIyOyUyVwUwVwWAxExIxO
xUxVwYAxExIxOxUxVeRIESfY BLOSSOMdSTNUTcI RHOdCKENdLDfREN CROSSINGdPMUNKdRONcOCOLATE BARdPSTICKS
dRASMIAN LETTER ALEPHtYINsBETHsCURLED WAWsDALETHsGIMELsHEuTHsKAPHsLAMEDHsMEMsNUNsPEsRESHsSAMEKHtHIN
tMALL ALEPHsTAWsWAWsYODHsZAYINlNUMBER FOURsONEv HUNDREDsTENtHREEtWENTYuOcRISTMAS TREEcURCHbINEMA
cRCLE DIVIDED BY HORIZONTAL BAR AND TOP HALF DIVIDED BY VERTICAL BAR
hWITH ALL BUT UPPER LEFT QUADRANT BLACKmHORIZONTAL BARmLEFT HALF BLACKnOWER HALF BLACK
mRIGHT HALF BLACKmSMALL CIRCLE TO THE RIGHTnUPERIMPOSED XmTWO HORIZONTAL STROKES TO THE RIGHT
mUPPER HALF BLACKsRIGHT QUADRANT BLACKmVERTICAL FILLgD ANTICLOCKWISE ARROWv-ROTATED DIVISION SIGN
jSTERISK OPERATORiBOLD XjULLETiC WITH OVERLAID BACKSLASHjCjDjROSS FORMEEu WITH FOUR DOTSzbTWO DOTS
oPOMMEEnING LANESiDASHjIGIT EIGHToFIVEpOURoNINEoONEoSEVENpIXoTHREEpWOoZEROkVISION SIGNsLASH
jOLLAR SIGN WITH OVERLAID BACKSLASHkT OPERATORiEQUALSiGREATER-THANiHANGUL CHIEUCHw AqIEUCu ApHIEUH
u ApIEUNGu AvUpKHIEUKHw AqIYEOKv ApMIEUMu ApNIEUNu ApPHIEUPHw AqIEUPu ApRIEULu ApSIOSt ApTHIEUTHw A
qIKEUTv AjEAVY WHITE RIGHTWARDS ARROWjORIZONTAL BAR WITH NOTCHjUMAN FIGUREiIDEOGRAPH ACCEPTtDVANTAGE
tLLIANCEtTTENTIONsCENTREtONGRATULATIONuPYuRRECTsEARTHtIGHTtNTERPRISEtXCELLENTsFEMALEtINANCIALuREuVE
tOURsHAVEtIGHsITEMsKINDERGARTENtOTOsLABORtEFTtOWsMALEtEDICINEuTALtOONsNAMEtIGHTuNEsONEsPRINT
sQUESTIONsRELIGIONuSOURCEvTtIGHTsSCHOOLtECRETuVENtIXtOCIETYtPECIALtTOCKuUDYtUITABLEuNuPERVISEsTEN
tHREEtWOsWATERtOODjNFORMATION SOURCEjTALIC LATIN CAPITAL LETTER CzlRiKATAKANA ArErHAsEsIsOsUrIrKAsE
sIsOsUrMAsEsIsOsUrNAsEsIsOsUrOrRAsEsIsOsUrSAsEsIsOsUrTAsEsIsOsUrUrWAsEsIsOrYAsOsU
jOREAN CHARACTER CHAMKOzJUEUIiLATIN CAPITAL LETTER AzeBzeCzeDzeEzeFzeGzeHzeIzeJzeKzeLzeMzeNzeOzePzeQ
zeRzeSzeTzeUzeVzeWzeXzeYzeZoSMALL LETTER AzcBzcCzcDzcEzcFzcGzcHzcIzcJzcKzcLzcMzcNzcOzcPzcQzcRzcSzcT
zcUzcVzcWzcXzcYzcZjESS-THANiMINUSjULTIPLICATION SIGN WITH CIRCUMFLEX ACCENTiNUMBER EIGHTEEN
uY ON BLACK SQUAREqLEVENpFIFTEENtYu ON BLACK SQUAREqORTYu EIGHTvFIVEwOURvNINEvON BLACK SQUARExE
vSEVENwIXvTHREEwWOrURTEENpNINETEENpSEVENTEENvY ON BLACK SQUAREqIXTEENtY ON BLACK SQUAREpTEN
s ON BLACK SQUAREqHIRTEENuYv EIGHTwFIVExOURwNINEwON BLACK SQUAREyEwSEVENxIXwTHREExWOqWELVEsNTY
v EIGHTwFIVExOURwNINEwON BLACK SQUAREyEwSEVENxIXwTHREExWOiOPEN CENTRE EIGHT POINTED STARiPARALLEL
jERPENDICULARjLUSjOSTAL MARKiREVERSE SOLIDUSjING OPERATORiSQUAREiTIMESjRIANGLEq DOWNiVERTICAL BAR
iWHITE BULLEToSTARjZiXiZERO WITH SLASHeULATION FUNCTIONfMFLEX ACCENTfS TENTcTYSCAPEj AT DUSK
bJK RADICAL BAMBOOnLUEnOLT OF CLOTHoNEoXnRUSH ONEsTWOmC-SIMPLIFIED BIRDzCARTzDRAGONzEATzbVENzFISH
zbLYzbROGzGATEzbOLDzHORSEzLEAFzbONGzSALTzbEEzbHELLzbILKzbPEECHzTANNED LEATHERzbOOTHzbURTLEzWINDnHOKE
nITYoVILIANnLIFFoOTHESnOWmDEATHnIVINATIONnOGmEAT ONEqTHREErWOnWEnYEmFIREnOOTmGHOSTnRASS ONEsTHREEtWO
mHANDnEADpRT ONEsTWOnORNmJ-SIMPLIFIED DRAGONzEVENzTOOTHzbURTLEnADEmKNIFE ONEsTWOmLAME FOURrONErTHREE
sWOnONG ONErTWOmMEAToSHnOONoRTARoTHERoUND ONEsTWOmNET FOURqONEqTHREErWOmOLDmPAW ONEqTWOnERSONmRAINoM
oPnEPEATmSEALoCOND ONEtTHREEuWOnHEEPnILKoMPLIFIED HALF TREE TRUNKyORNxWALKyHEATxYELLOWnMALL ONEsTWO
nNAKEoOUT ONEsTWOnPIRIT ONEtTWOnUNmTABLEnHREADnIGERnURTLEmWALK ONErTWOoTER ONEsTWOnEST ONErTWO
eSTROKE BXGlDlHmGmPnWGmXWGmZnGnTnWoGnZoPoZpGlNlPmDmGmZlQlSmGmPmTmWnGnZmZnWGnZlTmNlWGlXG
bLAMSHELL MOBILE PHONEdPPER BOARDfING HANDS SIGNdSSICAL BUILDINGcEAR SCREEN SYMBOLcINKING BEER MUGS
jGLASSESdPBOARDcOCK FACE EIGHT OCLOCKq-THIRTYmLEVEN OCLOCKr-THIRTYlFIVE OCLOCKp-THIRTYmOUR OCLOCK
p-THIRTYlNINE OCLOCKp-THIRTYlONE OCLOCKo-THIRTYlSEVEN OCLOCKq-THIRTYmIX OCLOCKo-THIRTYlTEN OCLOCK
o-THIRTYmHREE OCLOCKq-THIRTYmWELVE OCLOCKr-THIRTYnO OCLOCKo-THIRTYfWISE CLOSED CIRCLE ARROW
lONTOUR INTEGRALkDOWNWARDS AND UPWARDS OPEN CIRCLE ARROWSkGAPPED CIRCLE ARROWkINTEGRAL
kOPEN CIRCLE ARROWkRIGHT AND LEFT SEMICIRCLE ARROWSpWARDS AND LEFTWARDS OPEN CIRCLE ARROWS
zzd WITH CIRCLED ONE OVERLAYkTOP SEMICIRCLE ARROWlRIANGLE-HEADED OPEN CIRCLE ARROWdSE UPfD BOOK
hINTERSECTION WITH SERIFShLOCK WITH KEYhMAILBOX WITH LOWERED FLAGuRAISED FLAGhSUBSETn OR EQUAL TO
jPERSETp OR EQUAL TOhUMBRELLAiNION WITH SERIFSy AND SMASH PRODUCTdUDf WITH LIGHTNINGlRAINlSNOW
lTORNADOdWN FACEbOATcCKROACHeTAIL GLASSdONUTcFFINcINcLLISION SYMBOLdONf EQUALSgSIGN
cMBINING ACUTE ACCENTw BELOWqTONE MARKp-GRAVE-ACUTEqMACRONlLMOST EQUAL TO ABOVEzbBELOWlNNUITY SYMBOL
mTICLOCKWISE ARROW ABOVEyRING OVERLAYlSTERISK ABOVEtBELOWkBINDU BELOWlREVEp BELOWp-MACRONmIDGE ABOVE
rBELOWkCANDRABINDUmRONp BELOWlEDILLAlIRCUMFLEX ACCENTzc BELOWlLOCKWISE ARROW ABOVEuRING OVERLAY
lOMMA ABOVEv RIGHTqBELOWmNJOINING MACRONzc BELOWlYRILLIC DASIA PNEUMATAtHUNDRED MILLIONS SIGN
zcTHOUSANDS SIGNtKAVYKAtLETTER AzbBEzcIG YUSzbCHEzbDEzcJERVzbEFzcLzcMzcNzcRzcSzd-TEzbFITAzbGHEzbHA
zdRD SIGNzbIzcEzcOTIFIED AzkBIG YUSzkEzbKAzbLITTLE YUSzbMONOGRAPH UKzbOzcMEGAzbPEzbSHAzdCHA
zcOFT SIGNzbTEzcSEzbUzcKRAINIAN IEzbVEzbYATzcERUzcIzcUzbZEzcHEtMILLIONS SIGNtPALATALIZATIONvYEROK
uOKRYTIEuSILI PNEUMATAtTEN MILLIONS SIGNuHOUSAND MILLIONS SIGNuITLOy LEFT HALFzRIGHT HALFtVZMET
kDELETION MARKmVANAGARI DIGIT EIGHTzcFIVEzdOURzcNINEzcONEzcSEVENzdIXzcTHREEzdWOzcZEROvLETTER AzdKA
zdNAzdPAzdRAzdUzdVIvSIGN AVAGRAHAlIAERESISt BELOWt-RINGlOT ABOVEt LEFTuRIGHToBELOWt LEFT
nTED ACUTE ACCENTrGRAVE ACCENTmUBLE ACUTE ACCENTrBREVEw BELOWrCIRCUMFLEX ABOVErGRAVE ACCENT
rINVERTED BREVEzg BELOWrLOW LINErMACRONx BELOWrOPEN MARK BELOWsVERLINErPARENTHESES ABOVE
sLUS SIGN ABOVEzcBELOWrRIGHTWARDS ARROW BELOWtNG BELOWrTILDEw LEFT HALFxRIGHT HALF
rVERTICAL LINE ABOVEzgBELOWzbSTROKE OVERLAYqD CIRCUMFLEX ACCENTmWN TACK BELOWoWARDS ARROW
kENCLOSING CIRCLEzb BACKSLASHuDIAMONDuKEYCAPuSCREENvQUAREuUPWARD POINTING TRIANGLElQUALS SIGN BELOW
kFERMATAlOUR DOTS ABOVEkGLAGOLITIC LETTER AZUzdBIG YUSzeUKYzdCHRIVIzdDJERVIzeOBROzdFITAzeRITU
zdGLAGOLIzdHERUzdIzeNITIAL IZHEzeOTATED BIG YUSzlSMALL YUSzeZHEzdKAKOzdLJUDIJEzdMYSLITEzdNASHIzdONU
zdPOKOJIzdRITSIzdSHAzfTAzeLOVOzeMALL YUSzdTSIzeVRIDOzdUKUzdVEDEzdYATIzeERIzgUzfSTUzeOzeUzdZEMLJA
zeHIVETElRANTHA DIGIT FIVEzOURyONEySIXyTHREEzWOyZEROsLETTER AzKAzNAzPAzVInPHEME JOINERnVE ACCENT
w BELOWqTONE MARKp-ACUTE-GRAVEqMACRONmEEK DIALYTIKA TONOSqKORONISqMUSICAL PENTASEMEyTETRASEMEzRISEME
qPERISPOMENIqYPOGEGRAMMENIkHOMOTHETIC ABOVEmOK ABOVEmRNkINFINITYmVERTED BREVEy BELOWvIDGE BELOW
tDOUBLE ARCH ABOVEzgBELOWlS BELOWkKATAKANA-HIRAGANA SEMI-VOICED SOUND MARKzdVOICED SOUND MARK
mVYKA ABOVE LEFTxRIGHTkLATIN LETTER SMALL CAPITAL GzmLzmMzmNzmRqSMALL LETTER Azf WITH DIAERESISzfE
zfLPHAzfOzfVzeBzfETAzeCzf CEDILLAzeDzeEzfSHzfTHzeFzfLATTENED OPEN A ABOVEzeGzeHzeIzfNSULAR DzmGzmR
zmTzeKzeLzf WITH DOUBLE MIDDLE TILDEzfONG SzeMzeNzeOzf WITH DIAERESISzlLIGHT CENTRALIZATION STROKE
zePzeRzf BELOWzgROTUNDAzeSzfCHWAzeTzfURNED W BELOWzeUzf WITH DIAERESISzlLIGHT CENTRALIZATION STROKE
zeVzeWzf BELOWzeXzeZlEFT ANGLE ABOVEvBELOWqRROW ABOVEvBELOWuHEAD ABOVEzBELOWpHALF RING ABOVEzBELOW
rRPOON ABOVEpPARENTHESIS ABOVE LEFTzcBELOW LEFTpRIGHT ARROW ABOVEzcBELOWpTACK BELOW
oWARDS ARROW OVERLAYuHARPOON WITH BARB DOWNWARDSlIGATURE LEFT HALFzd BELOWtRIGHT HALFze BELOW
nHT CENTRALIZATION STROKE BELOWlONG DOUBLE SOLIDUS OVERLAYpSOLIDUS OVERLAYqTROKE OVERLAY
pVERTICAL LINE OVERLAYmW LINEkMACRONq BELOWrLEFT HALFzb BELOWrRIGHT HALFzc BELOWq-ACUTErBREVErGRAVE
lINUS SIGN BELOWkNOT TILDE ABOVElUMBER SIGN ABOVEkOGONEKq ABOVElLD PERMIC LETTER ANzdDOIzdNENOEzdSII
zdZATAlPEN MARK BELOWlVERLINEkPALATALIZED HOOK BELOWmRENTHESES ABOVEwBELOWwOVERLAYlLUS SIGN ABOVE
uBELOWkRETROFLEX HOOK BELOWmVERSE SOLIDUS OVERLAYrD COMMA ABOVElIGHT ARROW ABOVEwBELOWvHEAD ABOVE
zcND DOWN ARROWHEAD BELOWzfUP ARROWHEAD BELOWzbBELOWqHALF RING ABOVEzbBELOWsRPOON ABOVE
qPARENTHESIS ABOVE RIGHTzdBELOW RIGHTqTACK BELOWpWARDS HARPOON WITH BARB DOWNWARDSmNG ABOVEpBELOW
pOVERLAYkSEAGULL BELOWlHORT SOLIDUS OVERLAYrTROKE OVERLAYqVERTICAL LINE OVERLAYlNAKE BELOW
lQUARE BELOWsRACKETS ABOVElTRONG CENTRALIZATION STROKE BELOWlUSPENSION MARKkTHREE DOTS ABOVElILDE
p BELOWqLEFT HALF BELOWqOVERLAYqRIGHT HALF BELOWlRIPLE ACUTE ACCENTrDOTrUNDERDOTlURNED COMMA ABOVE
kUP TACK ABOVEsBELOWmWARDS ARROW BELOWlR ABOVElS ABOVEkVERTICAL LINE ABOVEyBELOWtTILDE
kWIDE BRIDGE ABOVEpINVERTED BRIDGE BELOWmGGLY LINE BELOWkX ABOVEmBELOWl-X BELOWkZIGZAG ABOVErBELOW
dETdMAeERCIAL ATlMINUS SIGNdPASSeLEMENTeOSITION SYMBOLeRESSIONcNFETTI BALLeOUNDED FACEeUSED FACE
dGRUENT WITH DOT ABOVEdICAL TAPERdJUNCTIONdSTRUCTION SIGNnWORKERdTAINS AS MEMBERmNORMAL SUBGROUP
zc OR EQUAL TOjWITH LONG HORIZONTAL STROKEoOVERBARoVERTICAL BAR AT END OF HORIZONTAL STROKE
eINUOUS UNDERLINE SYMBOLeOUR INTEGRALeROL KNOBSiSEQUENCE INTRODUCERdVENIENCE STOREcOKED RICEeIEfNG
cPTIC CAPITAL LETTER AKHMIMIC KHEIxLFAwBOHAIRIC KHEIwCROSSED SHEIyYPTOGRAMMIC EIEzlGANGIAzlNIzlSHEI
wDALDAxEIxIALECT-P ALEFzhHORIzhKAPAzhNIwEIEwFEIxIwGAMMAyNGIAwHATExORIwIAUDAwKAPAxHEIyIxSI
wL-SHAPED HAxAULAwMIwNIwOxLD COPTIC AINziDJAziESHziGANGIAziHAzkTzjEIzjORIziOOUziSHEIzkIMA
zbNUBIAN NGIzjYIziSHIMAziWAUxOUwPIxSIwROwSAMPIxHEIyIMAxIMAxOUwTAUxHETHEwUAwVIDAwZATA
iOMBINING NI ABOVErSPIRITUS ASPERzbLENIShEPACT DIGIT EIGHTtFIVEuOURtNINEtONEtSEVENuIXtTHREEuWO
nNUMBER EIGHT HUNDREDzYuFIFTYwVE HUNDREDvORTYwUR HUNDREDuNINE HUNDREDyTYuONE HUNDREDuSEVEN HUNDRED
zTYvIX HUNDREDxTYuTENvHIRTYwREE HUNDREDvWENTYwO HUNDREDnTHOUSANDS MARKhFRACTION ONE HALFiULL STOP
hMORPHOLOGICAL DIVIDERhOLD NUBIAN DIRECT QUESTION MARKsFULL STOPsINDIRECT QUESTION MARK
sVERSE DIVIDERhSMALL LETTER AKHMIMIC KHEIvLFAuBOHAIRIC KHEIuCROSSED SHEIwYPTOGRAMMIC EIEzjGANGIAzjNI
zjSHEIuDALDAvEIvIALECT-P ALEFzfHORIzfKAPAzfNIuEIEuFEIvIuGAMMAwNGIAuHATEvORIuIAUDAuKAPAvHEIwIvSI
uL-SHAPED HAvAULAuMIuNIuOvLD COPTIC AINzgDJAzgESHzgGANGIAzgHAziTzhEIzhORIzgOOUzgSHEIziIMAyNUBIAN NGI
zhYIzgSHIMAzgWAUvOUuPIvSIuROuSAMPIvHEIwIMAvIMAvOUuTAUvHETHEuUAuVIDAuZATAiYMBOL KAIpHI ROoMI ROoPI RO
oSHIMA SIMApTAUROSoTAU ROdYLEFT SYMBOLeRIGHT SIGNcRALdNISH VERSE DIVIDERdRESPONDS TOcUCH AND LAMP
dNTERBOREhSINKfING ROD TENS DIGIT EIGHTyFIVEzOURyNINEyONEySEVENzIXyTHREEzWOnUNIT DIGIT EIGHTyFIVE
zOURyNINEyONEySEVENzIXyTHREEzWOdPLE WITH HEARTcWd FACEbRcABcEDIT CARDdSCENT MOONcICKETh BAT AND BALL
cOCODILEdISSANTdSS MARKgOF JERUSALEMjLORRAINEgPATTY WITH LEFT CROSSBARrRIGHT CROSSBARhOMMEE
m WITH HALF-CIRCLE BELOWfED FLAGSiNEGATIVE SQUARED LATIN CAPITAL LETTER PiSWORDSfING LANESdWNcUTCH
dZEIRO SIGNcYING CAT FACEhFACEdSTAL BALLbSIbUBE ROOTcCUMBERcNEIFORM NUMERIC SIGN EIGHT ASHzeDISH
zeGESH2zeSHAR2zeUzf VARIANT FORMzeVARIANT FORM USSUzv3yLAMITE FIFTYzhORTYzgONE THIRDzgTWO THIRDS
xFIVE ASHzg TENUzdBAN2zh VARIANT FORMzeURUzdDISHzdGESH2zhUzdSHAR2zhUzeIXTHS DISHzdUze VARIANT FORM
yOUR ASHzg TENUzdBAN2zh VARIANT FORMzeURUzdDISHzdGESH2zhUzdSHAR2zhUzdUze VARIANT FORM
zdVARIANT FORM LIMMUzv AzwBzv4xNIGIDAESHzeMINzNE ASHzdDISHzdGESH2zdSHAR2zdUze VARIANT FORM
zdVARIANT FORM ILIMMUzw Azw3zw4xOLD ASSYRIAN ONE QUARTERzpSIXTHyNE BAN2zdURUzcEIGHTH ASHzdSHE3
zcGESH2zgUzcHALF GURzcQUARTER ASHzkGURzcSHARUzcTHIRD DISHziVARIANT FORM AxSEVEN ASHzeDISHzeGESH2
zeSHAR2zeUzf VARIANT FORMzeVARIANT FORM IMIN AzwBzv3yHAR2 TIMES GAL PLUS DISHztMINyIX ASHzf TENU
zcDISHzcGESH2zcSHAR2zcUzd VARIANT FORMzcVARIANT FORM ASH9xTHREE ASHzh TENUzeBAN2zfURUzi VARIANT FORM
zeDISHzeGESH2ziUzeSHAR2zj VARIANT FORMziUzj VARIANT FORMzeVARIANT FORM ESH16zu21yWO ASHzf TENUzcBAN2
zdURUzcESHE3zcGESH2zgUzcSHAR2zgUzcTHIRDS DISHzjVARIANT FORM AkPUNCTUATION SIGN DIAGONAL COLON
zlQUADCOLONzlTRICOLONzcOLD ASSYRIAN WORD DIVIDERzcVERTICAL COLONkSIGN Aq TIMES AxBADxGAN2 TENUxHA
xIGIxLAGAR GUNUxMUSHxSAGq2qBr GUNUsTIMES ASH2yDUN3 GUNUyGALzbN2 TENUyHAyIGI GUNUzMINyLAGAByNUN
zc TENUySHESHzbU2yU PLUS U PLUS Ur2s TIMES AzBALAGzGAN2 TENUzME PLUS ENzSHA3zTAK4qDr TIMES ESH2qK
r TIMES ERIN2ySHITA PLUS GISHqLr TIMES ALyDIM2yGISHyHAyKAD3zIySHEyUSHrANrEPHqMARt TIMES KUGzbSHEqN
r OVER ANsPLUS NAGA OPPOSING AN PLUS NAGAzdSQUAREDsTHREE TIMESrSHEqPINqRADt TIMES KURrKABqSAL2rH
s KABA TENUtOVER ASH OVER ASHzl CROSSING ASH OVER ASH OVER ASHzdTUG2 OVER TUG2 TUG2 OVER TUG2 PAP
tZIDA TENUs2sGABpBArDs TIMES DISH TENUrG3rHAR2v TIMES AB2zdNIzdZArLs OVER BALsAGrRsA2qIr TIMES AyGAR
yIGI GUNUqUr CROSSING BUsOVER BU ABzbTIMES NA2zbUNrLUGu OVER BULUGrRs2pDAr TIMES TAK4rG
s KISIM5 TIMES A PLUS MASHziMARzhBALAGziIzhGAzj PLUS MASHziIzjR2ziUDzhHAzhIRzj PLUS LUzhKAKzhLAziU
zj PLUS MASH2zjMzhNEzhPAP PLUS PAPzhSIzhTAK4zhU2 PLUS GIR2zpMASHziSHtTIMES KURs3rMrRsA3t4qIrBrM
s TIMES IGIzSHEzU U Us2t TIMES UDrNs KASKAL U GUNU DISHrSHt PLUS SHUqUr GUNUsOVER DUsSHESHIGrB
s TIMES ESH2zSHEs2rGs TIMES ANSHEzbSHzd AT LEFTzDINzbUNzERIN2zGAzbIzcR2 GUNUzcSHzHAzbIzIGI GUNU
zKASKALzbURzcSHU2zg PLUS KASKALzLAK-020zcMzd TIMES KURzbUH PLUS GISHzMASHzbESzbIzNIzPIzSHEzbI GUNU
sUDrHrNs3t GUNUy GUNUs4rR2pEq OVER E NUN OVER NUNrTIMES PAPq2r TIMES A PLUS HA PLUS DAyGARyKURyMI
yPAPySALzHEyUqDINqGIRqLqNr CROSSING ENsOPPOSING ENsSQUAREDsTIMES GAN2zd TENUyMEqRENrIN2u XqSH2
t CROSSING ESH2qZENt SHESHIG TIMES ASHzjHIzjIGI GUNUzjLAzlLzjMEzlSzjSUuTIMES Azc PLUS LAL
zl TIMES LALzcNzbBADzbDUN3 GUNUzk GUNUzbGUDzbHAzd GUNUzbIGI GUNUzbKASKALzh SQUAREDzcU3zbLA
zdL TIMES LALzcIzcUzbSHEzcUzbU2zcDpGAr GUNUr2s OVER GA2tTIMES A PLUS DA PLUS HAzhHAzhIGI
zbB2 TENU PLUS TABzbNzc PLUS KAK PLUS AzbSHzd2ze PLUS GALzBADzcHAR2zcR PLUS RAzbURzd PLUS RAzDAzbI
zcM GUNUzeTIMES SHEzbUBzcG TIMES IGI GUNUzkKASKALzELzc PLUS LAzbNzc TIMES GAN2 TENUzbRENzGAzcN2 TENU
zcRzd PLUS DIzjNEzbIzc4zd PLUS AzcR2 PLUS SUzHA PLUS AziLU PLUS ESH2zcLzd PLUS LAzbI PLUS LIzbUB2
zIGI GUNUzbSH PLUS HU PLUS ASHzKAKzcSKALzbIDzd PLUS LALzbU3 PLUS ANzcSHU2 PLUS KASKALzLAzcM
zd TIMES KURzbUHzME PLUS ENzbIzbUSHzNEzc PLUS E2ziGIzbUNzd OVER NUNzPAzSALzcRzbHEzd PLUS TURzcIDzdM
zbUMzTAK4zUzbDzc PLUS DUzZIZ2rBAt CROSSING GABAuROTATED NINETY DEGREESrDs OVER GAD GAR OVER GARrL
s GAD OVER GAD GAR OVER GARsAMrMrNs2t CROSSING GAN2uOVER GAN2uTENUrRs3rSHANqE22rSHTINw TIMES KURzeU
qIr CROSSING GIsTIMES EyUr4s CROSSING GI4tOVER GI4rDIMrGrR2t GUNUs3t TIMES A PLUS IGIzbGAN2 TENU
zbIGIzbLU PLUS IGIzbPArSALsHt CROSSING GISHuTENUvIMES BADzbGISH CROSSING GISHzbTAK4qUr CROSSING GUr2
s GUNUtTIMES IGI GUNUzKAKzd TIMES IGI GUNUzNUNzSAL PLUS TUG2rDs OVER GUD LUGALtPLUS GISH TIMES TAK4
tTIMES A PLUS KURzKURrLrMs TIMES SHErRs7sUNtSHpHAr GUNUsTENUw GUNUrLqIr TIMES ASH
zc OVER HI TIMES ASHzc2yBADyDISHyGADyKINyNUNySHEyUqUrB2t TIMES ANzbHALzbKASKALzbLISHzbUDrL2rSHpIq A
qBqDIMt OVER IDIM BURzfSQUAREDqGrIs DIBtGUNUtOVER IGI SHIR OVER SHIR UD OVER UDtRIqL
r TIMES GAN2 TENUr2qMr CROSSING IMsOPPOSING IMsSQUAREDsTIMES TAK4rINqNqRqSHpKAr TIMES AzDzb PLUS KU3
zNSHEzSH2zc3yBADzbLAGzbRzIzUyERIN2zSH2yGAzbLzbN2 TENUzbRzc PLUS SHA3 PLUS AzIzbR2zbSH
zd CROSSING GISHzePLUS SARzUzbDzbR7yHI TIMES ASH2yIGIzMyKAzbKzIzbDyLIzUzbMyMEzb PLUS DUzhGIzhTEzI
zb PLUS NUNUZyNEzUNyPAzIyRUySAzbRzHAzbEzbIDzbUzcLzIGzUHURyTARzUyUz U Uz2zDzMUM TIMES PAzRzb2zSHyZIr2
s CROSSING KA2rBrD2s3s4s5t OVER KAD5rKs TIMES IGI GUNUrLs CROSSING KALtTIMES BADrM2s4rP ELAMITErSKAL
v LAGAB TIMES U OVER LAGAB TIMES UwOVER KASKAL LAGAB TIMES U OVER LAGAB TIMES UqESH2qIr TIMES BADyU
zDrDrNrSALsHsIM5v OVER KISIM5qUr OVER HI TIMES ASH2 KU OVER HI TIMES ASH2r3r4s VARIANT FORMr7rL
s GUNUrNrRs OPPOSING KURrSHU2qWU318pLArGABu SQUAREDvTIMES Azd PLUS DA PLUS HAzjGARzjLALzdLzdN
zdSH ZIDA TENUzcBADzdIzcDARzcENzcGAzeRzdIzdUDzf PLUS GUDzcHAzeLzdI TIMES NUNzcIGI GUNUzdMze PLUS HA
zkLUzcKIzeNzdU3zeLzf PLUS HI PLUS AzcLAGABzdISHzdUzeLzcMEze PLUS ENzdUSHzcNEzcSHE PLUS SUM
zeITA PLUS GISH PLUS ERIN2zsTENUzeU2zg PLUS SHU2zdUMzcTAGzeK4zdE PLUS A PLUS SU PLUS NAzcUzd PLUS A
zjU PLUS Uzd2 PLUS ASHzdDzdSHzcZU OVER ZUtRu GUNUz OVER LAGAR GUNU SHEvTIMES SHEzf PLUS SUMrHSHU
rK-003u21v5u30u50v1u62u79 OVER LAK-079 GUNUu80v1 OVER LAK-081u92t130u42t210v9u20v5v8u38u65v6t343v7v8
u83v4u90t441v9w TIMES GUzeIGIzePAP PLUS LU3znPAP PLUS LU3zeU2 PLUS BAu50v7u70u83u90v2v3v5t550t608u17
w TIMES ASHzeBADzeDUN3 GUNU GUNUzeKU3zeLAzeTARzfEzeU2zfDzfRUDAu36u48w TIMES DUBzeGAzeIGIzh GUNUzeNI
zePAP PLUS PAP PLUS LU3zeSHESH PLUS KIzeUDzfRUDAt724u49rLs TIMES LALrMs TIMES KURzd PLUS RUqIrLrMMU2
rSHqUr TIMES BADr2s CROSSING LU2tGUNU TIMES ASHtOPPOSING LU2tSHESHIGzb TIMES BADuQUAREDtTENUuIMES AL
zBADzDISHzESH2ze PLUS LALzfTENUzGAN2 TENUzHALzbI TIMES BADzIMzKAD2zd3ze PLUS ASHzbIzLA PLUS ASHzcGAB
zME PLUS ENzNEzbUzPAPzd PLUS PAP PLUS LU3zSHUzbI PLUS ASHzcK2 PLUS BUzTAK4zbUG2r3rGAL
u OPPOSING LUGALwVER LUGALvSHESHIGrHrLrMs OVER LUMzc GAR OVER GARpMAr GUNUsTIMES TAK4r2rHrRrSHt2qErS
sHqIr PLUS ZA7rNqUr OVER MUrGs GUNUrNSUBrRGU2rSHt CROSSING MUSHuOVER MUSHze TIMES A PLUS NAzlGAzlKAK
uTIMES AzbKURzbZAt3u GUNUvTIMES Azd PLUS DIzcDIzcZApNAr2r4rGAt INVERTEDuOPPOSING NAGAuTIMES SHU TENU
tRrMs NUTILLUs2qEr SHESHIGsTIMES AyUDqIr TIMES Er2rMs TIMES GAN2 TENUzcR PLUS GAN2 TENUrNs9sDA2
v TIMES ANzeSHzg PLUS ASHzdBALzdDIM GUNUzdGIzfSHzeUDzfLzdHIzdKESH2zdLAK-050zdMASHzeE PLUS GAN2 TENU
zdNEzeUNzdPAP PLUS PAPzdSHEzg PLUS A ANznSHzp PLUS ASHzdUze PLUS Uze2 PLUS ASHzeRUDAzeSHrSAGqUr11
t OVER NU11 BUR OVER BURuROTATED NINETY DEGREESuTENUrNs CROSSING NUNzg LAGAR OVER LAGAR
tLAGAR TIMES GARzgMASHzgSALzj OVER NUN LAGAR TIMES SALzgUSHtOVER NUNtTENUsUZu AB2 TIMES ASHGABzgBI
zgDUGzgGUDzgIGI GUNUzgKAD3zgLAzgNEzgSILA3zgU2vKISIM5 TIMES BIzl UpPArDrNrPqESH2u ASTERISKqI
r CROSSING PIsTIMES AzByBIzUyEyIzByUz2rR2sIGu OPPOSING PIRIGvTIMES KALzcUDzcZApRArBqIqUpSArGs GUNU
x TIMES HAtNUTILLUtOVER SAGtTIMES AzDUzcBzENzHAzIGI GUNUzKAKzbURzLUMzMIzNUNzSALzbHE AT LEFTzcIDzTAB
zcK4zU2zbBzbMzbRzbSHrLs LAGAB TIMES ASH2rNGA2rRqHAs3t TIMES AzbBADzbGISHzbNEzbSHU2zbTURzbUzc PLUS A
s6t TENUsB6sR2rEs HUtOVER SHEzc GAD OVER GAD GAR OVER GARzdTAB OVER TAB GAR OVER GARtPLUS HUB2yNAM2
ySARsG9sNsSHu2uLAMrIDt TIMES AzbIMsMt TIMES AzbBALzcULUGzbDINzbGARzbIGIze GUNUzbKUSHU2zbLULzbMUG
zbSALsNIGsRt OVER SHIR BUR OVER BURuTENUsTArUs OVER INVERTED SHUs2t PLUS DUG TIMES NIzE2 TIMES AN
sBURqIr GUNUsTIMES TAK4rGs4t OVER SIG4 SHU2rK2rLA3qUr OVER SUrDs2rHURrMsASHrRs9pTAr ASTERISKsGUNU
sTIMES HIyMIrBs OVER TAB NI OVER NI DISH OVER DISHtSQUAREDrGs TIMES BIzGUDzSHEzcUzTUG2zUDrK4
t PLUS SAGrRqEr GUNUqIr TENUr2rLrRs OVER TIRzc GAD OVER GAD GAR OVER GARtTIMES TAK4qUrG2rKrM
s TIMES GAN2 TENUzTHREE DISHrRs OVER TUR ZA OVER ZApUq GUDrOVER U PA OVER PA GAR OVER GAR
ySUR OVER SURyU REVERSED OVER U REVERSEDrUs Uq2qBqDr GUNUsKUSHU2sSHESHIGz TIMES BADsTIMES BADyMI
yU PLUS U PLUS Uzo GUNUrUGqMr TIMES LAGAByMEzb PLUS DAySHA3yUrBINrUMt TIMES KASKALzbPAqNr GUNUqR
r CROSSING URsSHESHIGr2s INVERTEDtTIMES A PLUS HAzhNAzbLzHAzNUNzU2zc PLUS ASHziBIzbDr4rIs3rU
s TIMES AzbSHGABzBARzDARA3zbUNzGAzcLzcN2 TENUzcRzbUzHAzIGIzbMzbSHzKIzLAK-668zbU3zcMzMINzPAzSHEzbIG4
zTUzU PLUS GUDzbDzbRUDAsDAu TIMES UqSHs TIMES AzKUzcRzTAK4s2sUMXsXqTUKIqZ3s TIMES KASKALrUpZA
r SQUARED TIMES KURsTENUr7rGrMXqE2qIr OVER ZIr3rBs KABA TENUrGrZ2qUr OVER ZU PLUS SARr5s TIMES A
zTHREE DISH TENUrBURrMcP ON BLACK SQUAREeWITH STRAWdCAKEdIDOcRLING STONEeY BRACKET EXTENSION
gLOGICAL ANDoORiOPdRENCY EXCHANGEjSIGNeY AND RICEdVED STEM PARAGRAPH SIGN ORNAMENTcSTARDeOMS
cT OF MEATbYCLONEcLINDRICITYcPRIOT SYLLABLE ArErIrJAsOrKAsEsIsOsUrLAsEsIsOsUrMAsEsIsOsUrNAsEsIsOsUrO
rPAsEsIsOsUrRAsEsIsOsUrSAsEsIsOsUrTAsEsIsOsUrUrWAsEsIsOrXAsErZAsOeO-MINOAN SIGN CM001w2w4w5w6w7w8w9
v10w1w2xBw3w5w7w9v21w3w4w5w6w7w8w9v30w3w4w5w6w7w8w9v40w1w4w6w7w9v50w1w2w3w4w5w6w8w9v60w1w2w3w4w6w7w8
w9v70w1w2w3w4w5xBw6w8w9v80w1w2w3w4w5w6w7w8w9v90w1w2w4w5w6w7w8w9u100w1w2w3w4w5w7w8w9v10w2w4u301w2
cRILLIC CAPITAL LETTER Az WITH BREVEzgDIAERESISzBKHASIAN CHEzm WITH DESCENDERzjDZEzjHAzLEUT KA
yBARRED Ozh WITH DIAERESISzbSHKIR KAzEzIG YUSzbNOCULAR OzLENDED YUSzROAD OMEGA
zYELORUSSIAN-UKRAINIAN IyCCHEzHEzc WITH DESCENDERzjIAERESISziVERTICAL STROKEzLOSED LITTLE YUS
zROSSED OyDCHEzEzJEzcRVzOUBLE MONOCULAR OzgOzWEzZEzcLOzbHEzbWEzbZEzcHEyEz WITH DIAERESISzFzL
zb WITH DESCENDERzhHOOKzhMIDDLE HOOKzhTAILzMzb WITH TAILzNzb WITH DESCENDERzhHOOKzhLEFT HOOK
zhMIDDLE HOOKzhTAILzRzb WITH TICKzSzb WITH DESCENDERyFITAyGHEzc WITH DESCENDERziMIDDLE HOOKziSTROKE
zo AND HOOKziUPTURNzJEyHAzb WITH DESCENDERzhHOOKzhSTROKEzbRD SIGNzWEyIz WITH DIAERESISzgGRAVE
zgMACRONzEzb WITH BREVEzhGRAVEzOzbTAzcIFIED AziBIG YUSziCLOSED LITTLE YUSziEziLITTLE YUSziYATzZHITSA
zg WITH DOUBLE GRAVE ACCENTyJEyKAzb WITH DESCENDERzhHOOKzhSTROKEzhVERTICAL STROKEzHAKASSIAN CHEzJE
zOMI DEzfJEzfZJEzeLJEzeNJEzeSJEzeTJEzeZJEzbPPAzSIyLHAzITTLE YUSzJEyMONOCULAR OzdGRAPH UKyNEUTRAL YER
zJEyOz WITH DIAERESISzMEGAze WITH TITLOzTyPEzb WITH DESCENDERzhMIDDLE HOOKzSIyQAyREVERSED DZEziTSE
ziYUziZEzHAzOUND OMEGAySCHWAze WITH DIAERESISzEMISOFT SIGNzHAzbCHAzbHAzd WITH DESCENDERzbORT I
zg WITH TAILzfUzbWEzOFT DEzeELzfMzeSIGNzTRAIGHT Uzj WITH STROKEyTCHEzEzb WITH DESCENDERzhMIDDLE HOOK
zSEzbHEzbSEzbWEzWEyUz WITH DIAERESISzhOUBLE ACUTEzgMACRONzKzbRAINIAN IEyVEyWEyYAzbEzbTzERU
zd WITH BACK YERzjDIAERESISzIzNzUyZEzb WITH DESCENDERziIAERESISzbMLYAzHEzc WITH BREVEziDESCENDER
zjIAERESISzbWEsIGATURE A IEzbEN GHEzbTE TSEjKAVYKAjLETTER MULTIOCULAR OqPALOCHKAqSMALL CAPITAL EL
jPAYEROKjSMALL LETTER Ax WITH BREVEzeDIAERESISxBKHASIAN CHEzk WITH DESCENDERzhDZEzhHAxLEUT KA
wBARRED Ozf WITH DIAERESISySHKIR KAxExIG YUSyNOCULAR OxLENDED YUSxROAD OMEGAxYELORUSSIAN-UKRAINIAN I
wCCHExHEz WITH DESCENDERzhIAERESISzgVERTICAL STROKExLOSED LITTLE YUSxROSSED OwDCHExExJEzRV
xOUBLE MONOCULAR OzeOxWExZEzLOyHEyWEyZEzHEwEx WITH DIAERESISxFxLy WITH DESCENDERzfHOOKzfMIDDLE HOOK
zfTAILxMy WITH TAILxNy WITH DESCENDERzfHOOKzfLEFT HOOKzfMIDDLE HOOKzfTAILxRy WITH TICKxS
y WITH DESCENDERwFITAwGHEz WITH DESCENDERzgMIDDLE HOOKzgSTROKEzm AND HOOKzgUPTURNxJEwHA
y WITH DESCENDERzfHOOKzfSTROKEyRD SIGNxWEwIx WITH DIAERESISzeGRAVEzeMACRONxEy WITH BREVEzfGRAVExOyTA
zIFIED AzgBIG YUSzgCLOSED LITTLE YUSzgEzgLITTLE YUSzgYATxZHITSAze WITH DOUBLE GRAVE ACCENTwJEwKA
y WITH DESCENDERzfHOOKzfSTROKEzfVERTICAL STROKExHAKASSIAN CHExJExOMI DEzdJEzdZJEzcLJEzcNJEzcSJEzcTJE
zcZJEyPPAxSIwLHAxITTLE YUSxJExONG-LEGGED DEwMONOCULAR OzbGRAPH UKwNARROW OxEUTRAL YERxJEwO
x WITH DIAERESISxMEGAzc WITH TITLOxTwPALOCHKAxEy WITH DESCENDERzfMIDDLE HOOKxSIwQAwREVERSED DZEzgTSE
zgYUzgZExHAxOUND OMEGAzcED VEwSCHWAzc WITH DIAERESISxEMISOFT SIGNxHAyCHAyHAzb WITH DESCENDERyORT I
ze WITH TAILzdUyWExOFT DEzcELzdMzcSIGNxTRAIGHT Uzh WITH STROKEwTALL HARD SIGNzcTEzcYATxCHExE
y WITH DESCENDERzfMIDDLE HOOKxHREE-LEGGED TExSEyHEySEyWExWEwUx WITH DIAERESISzfOUBLE ACUTEzeMACRONxK
yRAINIAN IExNBLENDED UKwVEwWExIDE ESwYAyEyTxERUzb WITH BACK YERzhDIAERESISxIxNxUwZEy WITH DESCENDER
zgIAERESISyMLYAxHEz WITH BREVEzgDESCENDERzhIAERESISyWEqIGATURE A IEyEN GHEyTE TSEjTHOUSANDS SIGN
aDAGGERg KNIFEhWITH LEFT GUARDmRIGHT GUARDcLET SYMBOLcNCERdGOcRK SHADEgUNGLASSEScSH SYMBOL
fWITH LEFT UPTURNeED LOW LINEhOVERLINEhTRIANGLE-HEADED RIGHTWARDS ARROWcTA LINK ESCAPEbC1c2c3c4cS
bEAF PERSONcCIDUOUS TREEeMAL EXPONENT SYMBOLiSEPARATOR KEY SYMBOLdREASE FONT SIZE SYMBOLcER
cGREE CELSIUShFAHRENHEIThSIGNcLdETEdIVERY TRUCKdTA EQUAL TOcNTISTRY SYMBOL LIGHT DOWN AND HORIZONTAL
zr WITH CIRCLEzxTRIANGLEzxWAVExUP AND HORIZONTALzp WITH CIRCLEzvTRIANGLEzvWAVE
xVERTICAL AND BOTTOM LEFTzsRIGHTzlTOP LEFTzpRIGHTzlWAVEzhWITH CIRCLEzmTRIANGLEcPARTMENT STORE
cRELICT HOUSE BUILDINGcSCENDING NODEdERET CAPITAL LETTER AYxBEExCHEExDEExEFyLyMyNzGyRySzHyTHyWxGAYxH
xJEExKAYxLONG AzeHzdEzdIzdOzeOxOIyWxPEExSHORT AzfHzeEzeIzeOzfOxTEEyHEExVEExWUxYEExZEEyHEE
iSMALL LETTER AYvBEEvCHEEvDEEvEFwLwMwNxGwRwSxHwTHwWvGAYvHvJEEvKAYvLONG AzcHzbEzbIzbOzcOvOIwWvPEE
vSHORT AzdHzcEzcIzcOzdOvTEEwHEEvVEEvWUvYEEvZEEwHEEfTg ISLANDdKTOP COMPUTERiWINDOW
cVANAGARI ABBREVIATION SIGNmCUTE ACCENTlCARETlDANDAmIGIT EIGHTrFIVEsOURrNINErONErSEVENsIXrTHREEsWO
rZEROmOUBLE DANDAlGAP FILLERmRAVE ACCENTlHEADSTROKElJAIN OMlLETTER AtAtItUtWtYsBAtBAtHAsCAuNDRA AzE
zOtHAsDAtDAuDAvHAuHAtHAsEsFAsGAtGAtHAuHAtLOTTAL STOPsHAtEAVY YAsItIsJAtHAtJAsKAtHAuHAsLAtLAuLAsMA
uRWARI DDAsNAtGAtNAuNAtYAsOtEtOEsPAtHAsQAsRAtHAtRAsSAtHAuORT AyEyOtSAsTAtHAtTAuHAsUtEtUuEsVA
tOCALIC LzcLzbRzcRsYAtYAsZAtHAlOMlSIGN ANUSVARArVAGRAHAqCANDRABINDUzc AVAGRAHAzdTHREEzeWOzdVIRAMA
qDOUBLE CANDRABINDU VIRAMAqHIGH SPACING DOTqINVERTED CANDRABINDUqNUKTAqPUSHPIKAqSIDDHAM
rPACING CANDRABINDUqVIRAMAsSARGAmTRESS SIGN ANUDATTAxUDATTAlVOWEL SIGN AAxIxUxWxYwCANDRA EzeLONG E
zeOwEwIxIwOxExOEwPRISHTHAMATRA EwSHORT EzdOwUxExUyEwVOCALIC LzgLzfRzgRdICE CONTROL FOURpONEpSTRING
pTHREEqWObIAERESISdMETER SIGNeOND OPERATORiSHAPE WITH A DOT INSIDEiTARGETiWITH BOTTOM HALF BLACK
nLEFT HALF BLACKnRIGHT HALF BLACKnTOP HALF BLACKcE FACE-1j2j3j4j5j6dSEL LOCOMOTIVEcFFERENCE BETWEEN
cGIT EIGHTl COMMAmFULL STOPgFIVEk COMMAlFULL STOPhOURk COMMAlFULL STOPgNINEk COMMAlFULL STOPgONE
j COMMAkFULL STOPgSEVENl COMMAmFULL STOPhIXj COMMAkFULL STOPgTHREEl COMMAmFULL STOPhWOj COMMA
kFULL STOPgZEROk COMMAlFULL STOPdRAM FOR EARTHqLY HEAVENuUMANlGREATER YANGuINlHEAVENLY EARTH
mUMAN EARTHlLESSER YANGtINcMENSION ORIGINcNGBAT CIRCLED SANS-SERIF DIGIT EIGHTziFIVEzjOURziNINEziONE
ziSEVENzjIXziTHREEzjWOziZEROzcNUMBER TENiNEGATIVE CIRCLED DIGIT EIGHTzgFIVEzhOURzgNINEzgONEzgSEVEN
zhIXzgTHREEzhWOzNUMBER TENzSANS-SERIF DIGIT EIGHTzrFIVEzsOURzrNINEzrONEzrSEVENzsIXzrTHREEzsWOzrZERO
zlNUMBER TENcRECT CURRENT SYMBOL FORM TWOhHITcSABLED CARePPOINTED BUT RELIEVED FACEnFACE
dCONTINUOUS UNDERLINE SYMBOLdGUISED FACEcTTO MARKcVES AKURU DIGIT EIGHTsFIVEtOURsNINEsONEsSEVENtIX
sTHREEtWOsZEROnOUBLE DANDAmEND OF TEXT MARKmGAP FILLERmINITIAL RAmLETTER AuAtBAuHAtCAuHAtDAuDAvHAuHA
tEtGAuHAtHAtIuItJAtKAuHAtLAuLAtMAtNAuGAuNAuYAtOtPAuHAtRAtSAuHAuSAtTAuHAuTAtUuUtVAtYAuYAtZAmMEDIAL RA
tYAmPREFIXED NASAL SIGNmSIGN ANUSVARArCANDRABINDUrHALANTArNUKTAmVIRAMAnOWEL SIGN AAyIxExIyIxOxUyU
dIDESeNG MASKeSION SIGNkLASHjTIMESdORCE SYMBOLcYA LAMPcZZY FACEgSYMBOLbLEbNA DOUBLE HELIX
bO NOT LITTER SYMBOLcCUMENTi WITH PICTUREoTEXTs AND PICTUREcDOcES NOT CONTAIN AS MEMBER
uNORMAL SUBGROUPzk OR EQUALjDIVIDEp WITH REVERSED NEGATION SLASHjFORCEjPRECEDEq OR EQUALlOVEjSUCCEED
q OR EQUALcGd FACEdRA ABBREVIATION SIGNgLETTER AoAoIoUnBAoHAnCAoHAnDAoDApHAoHAnEnGAoHAnHAnIoInJAoHA
nKAoHAnLAnMAnNAoGAoNAoYAnOnPAoHAnRAoRAnSAoHAoSAnTAoHAoTApHAnUoUnVAnYAgSIGN ANUSVARAlNUKTAlVIRAMA
nSARGAgVOWEL SIGN AAsIsUrErIsIrOrUsUrVOCALIC RzbRcLLAR SIGNdPHINcMINO TILE HORIZONTAL BACKw-00-00zc1
zc2zc3zc4zc5zc6y1-00zc1zc2zc3zc4zc5zc6y2-00zc1zc2zc3zc4zc5zc6y3-00zc1zc2zc3zc4zc5zc6y4-00zc1zc2zc3
zc4zc5zc6y5-00zc1zc2zc3zc4zc5zc6y6-00zc1zc2zc3zc4zc5zc6mVERTICAL BACKu-00-00z1z2z3z4z5z6w1-00z1z2z3
z4z5z6w2-00z1z2z3z4z5z6w3-00z1z2z3z4z5z6w4-00z1z2z3z4z5z6w5-00z1z2z3z4z5z6w6-00z1z2z3z4z5z6cNG SIGN
cORcT ABOVEeMINUSeOPERATORePLUSdTED CIRCLEiROSShFENCEhLINE FACEhOBELOShRIGHT-POINTING ANGLEhSOLIDUS
iQUAREhTRANSPOSITION MARKERcUBLE ACUTE ACCENThCIRCLED DIGIT EIGHTvFIVEwOURvNINEvONEvSEVENwIXvTHREE
wWOpNUMBER TENiOLON EQUALiURLY LOOPhDAGGERiOWN TACKhEXCLAMATION MARKhHIGH-REVERSED-9 QUOTATION MARK
iYPHENhINTEGRALlRSECTIONhLEFT ARC GREATER-THAN BRACKETiOGICAL ANDpORjW LINEk-9 QUOTATION MARK
lREVERSED-9 QUOTATION MARKhNESTED GREATER-THANoLESS-THANx WITH UNDERBARhOBLIQUE HYPHENhPLUSiRECEDES
jIMEm QUOTATION MARKhQUESTION MARKhRIGHT ARC LESS-THAN BRACKEThSOLIDUS OPERATORiQUARE INTERSECTION
oUNIONiTACKED COMMAjROKE NOT SIGNiUBSETjCCEEDSjPERSETjSPENSION MARKhUNIONiP TACKhVERTICAL BAR
t DOUBLE LEFT TURNSTILEzcRIGHT TURNSTILEuLEFT TURNSTILEqLINEhWAVY OVERLINEg-ENDED MULTIMAP
hLINE EQUAL TO OR GREATER-THANyLESS-THANmSLANTED EQUAL TO OR GREATER-THANzhLESS-THAN
uGREATER-THAN OR EQUAL TOuLESS-THAN OR EQUAL TOhSTRUCK CAPITAL CwGAMMAwHwNwPxIwQwRwZ
oITALIC CAPITAL DvSMALL DzcEzcIzcJoN-ARY SUMMATIONoSMALL GAMMAuPIgD FEMALE SIGNiMALE SIGNiSYMBOL
dGHNUTcVE OF PEACEcWN ARROWHEADfFISH TAILfRIGHT DIAGONAL ELLIPSISfTACKj WITH CIRCLE BELOW
e-POINTING RED TRIANGLEoSMALL RED TRIANGLEoTRIANGLE WITH LEFT HALF BLACKzdRIGHT HALF BLACK
eWARD FACING HOOKu WITH DOTqNOTCHED HOOKzd WITH DOTiS ANCORAlRROWp AND RIGHT ONE EIGHTH BLOCK
qFROM BARqLEFTWARDS OF UPWARDS ARROWqTO BARqWITH CORNER LEFTWARDSvDOUBLE STROKE
vEQUILATERAL ARROWHEADvHORIZONTAL STROKEvLARGE TRIANGLE ARROWHEADvMEDIUM TRIANGLE ARROWHEAD
vNOTCHED TAILvSMALL EQUILATERAL ARROWHEADzcTRIANGLE ARROWHEADvTIP LEFTWARDSzRIGHTWARDSkBLACK ARROW
qCIRCLED WHITE ARROWkCOMPRESSED ARROWkDASHED ARROWlOUBLE ARROWkFINGER-POST ARROW
kHARPOON WITH BARB LEFT BESIDE DOWNWARDS HARPOON WITH BARB RIGHTzpUPWARDS HARPOON WITH BARB RIGHT
ziFROM BARziTO BARzhWARDSzdRIGHT FROM BARzjTO BARziWARDSlEAVY ARROWqCOMPRESSED ARROWkPAIRED ARROWS
kQUADRUPLE ARROWkROCKETkSANS-SERIF ARROWlQUARED ARROWkTRIANGLE ARROWHEADs-HEADED ARROW
zg LEFTWARDS OF UPWARDS TRIANGLE-HEADED ARROWzhTO BARzhWITH BOLD SHAFTzmDOUBLE HORIZONTAL STROKE
zmHEAVY SHAFTzmLONG TIP LEFTWARDSzvRIGHTWARDSzmMEDIUM SHAFTzmNARROW SHAFTzmVERY HEAVY SHAFT
zbDASHED ARROWzbPAIRED ARROWSzbZIGZAG ARROWnPLE ARROWlWO HEADED ARROW
n-HEADED ARROW WITH TRIANGLE ARROWHEADSkWHITE ARROWv WITHIN TRIANGLE ARROWHEADkZIGZAG ARROW
bRACHMA SIGNdFTING POINT RIGHTWARDS ARROWdGONg FACEcESScIVE SLOW SIGNcOMEDARY CAMELdOLING FACE
dP OF BLOODeLETcUM WITH DRUMSTICKSbUCKcMPLINGcPLOYAN AFFIX ATTACHED E HOOKyI HOOK
yLEFT-TO-RIGHT SECANTySECANTyTAILzbNGENTzg HOOKpHIGH ACUTEuCIRCLEuDOTuGRAVEuLINEvONG GRAVE
uTIGHT ACUTEuVERTICALzd SECANTuWAVEpLEFT HORIZONTAL SECANTqOW ACUTEuRROWtCIRCLEtDOTtGRAVEtLINE
uONG GRAVEtTIGHT ACUTEtVERTICALzc SECANTtWAVEpMID HORIZONTAL SECANTtVERTICAL SECANT
pRIGHT HORIZONTAL SECANTjDOUBLE MARKjLETTER ArOUqBqDr SrHqErErUqFr NqGr R SqHrLqIrEqJr Mt SsNt SsS
t WITH DOTsWITH DOTzbS INSIDE AND ABOVEqKr MsR SrKqLrHrONG IvUqMr Nt SsSsWITH DOTqNr Mt SsSsWITH DOT
rASAL AwIwOwUqOrArOHrUrWqPr NrERNIN AMyNqRr SrHrOMANIAN IzUqSr Jt SsKt RsMsNsPt RsSsTt RsWITH DOT
zb BELOWrHORT IrLOAN ANwDHwEExHxNwJwONxWwUqTr R SsSrHqUr NrHrIqVrOCALIC MqWr RrArEIrHrIrOsWqXrWqYE
jPUNCTUATION CHINOOK FULL STOPjSIGN O WITH CROSSjTHICK LETTER SELECTORbVDaE-MAIL SYMBOLbAGLEcR
d OF MAIZEhRICEeWITH HEARING AIDdTHf GLOBE AMERICASnSIA-AUSTRALIAmEUROPE-AFRICAhROUND
cST SYRIAC CROSSbDITORIAL CORONISbGGcYPTIAN HIEROGLYPH A001x2x3x4x5yAx6yAyBx7x8x9w10x1x2x3x4yAx5x6x7
yAx8x9w20x1x2x3x4x5x6x7x8x9w30x1x2yAx3x4x5x6x7x8x9w40yAx1x2yAx3yAx4x5yAx6x7x8x9w50x1x2x3x4x5x6x7x8x9
w60x1x2x3x4x5x6x7x8x9w70vA001y2y3y4y5y6y7zAzBy8y9x10y1y2y3y4y5y6y7y8y9x20y1y2y3y4y5y6y7y8y9x30y1y2
uB001x2x3x4x5yAx6x7x8x9vEGIN SEGMENTuC001x2yAyByCx3x4x5x6x7x8x9w10yAx1x2x3x4x5x6x7x8x9w20x1x2x3x4
uD001x2x3x4x5x6x7x8yAx9w10x1x2x3x4x5x6x7x8x9w20x1x2x3x4x5x6x7yAx8x9w30x1yAx2x3x4yAx5x6x7x8x9w40x1x2
x3x4x5x6yAx7x8yAx9w50yAyByCyDyEyFyGyHyIx1x2yAx3x4yAx5x6x7x8x9w60x1x2x3x4x5x6x7yAyByCyDyEyFyGyHuE001
x2x3x4x5x6x7x8yAx9yAw10x1x2x3x4x5x6yAx7yAx8x9w20yAx1x2x3x4x5x6x7x8yAx9w30x1x2x3x4yAx6x7x8vND SEGMENT
uF001yAx2x3x4x5x6x7x8x9w10x1x2x3yAx4x5x6x7x8x9w20x1yAx2x3x4x5x6x7x8x9w30x1yAx2x3x4x5x6x7yAx8yAx9w40
x1x2x3x4x5yAx6yAx7yAx8x9w50x1yAyByCx2x3uG001x2x3x4x5x6yAx7yAyBx8x9w10x1yAx2x3x4x5x6x7x8x9w20yAx1x2x3
x4x5x6yAx7x8x9w30x1x2x3x4x5x6yAx7yAx8x9w40x1x2x3yAx4x5yAx6x7x8x9w50x1x2x3x4uH001x2x3x4x5x6yAx7x8
vORIZONTAL JOINERuI001x2x3x4x5yAx6x7x8x9yAw10yAx1yAx2x3x4x5vNSERT AT BOTTOM ENDzmSTARTzfTOP END
zjSTARTuK001x2x3x4x5x6x7x8uL001x2yAx3x4x5x6yAx7x8uM001yAyBx2x3yAx4x5x6x7x8x9w10yAx1x2yAyByCyDyEyFyG
yHx3x4x5yAx6yAx7yAx8x9w20x1x2yAx3x4yAx5x6x7x8yAx9w30x1yAx2x3yAyBx4x5x6x7x8x9w40yAx1x2x3x4uN001x2x3x4
x5x6x7x8x9w10x1x2x3x4x5x6x7x8yAyBx9w20x1x2x3x4x5yAx6x7x8x9w30x1x2x3yAx4yAx5yAx6x7yAx8x9w40x1x2vL001
y2y3y4y5zAy6y7y8y9x10y1y2y3y4y5y6y7zAy8y9x20vU001y2y3y4y5y6y7y8y9x10zAy1zAy2y3y4y5y6y7y8zAy9x20y1y2
zAuO001yAx2x3x4x5yAx6yAyByCyDyEyFx7x8x9w10yAyByCx1x2x3x4x5x6x7x8x9yAw20yAx1x2x3x4yAx5yAx6x7x8x9yAw30
yAx1x2x3yAx4x5x6yAyByCyDx7x8x9w40x1x2x3x4x5x6x7x8x9w50yAyBx1vVERLAY MIDDLEuP001yAx2x3yAx4x5x6x7x8x9
w10x1uQ001x2x3x4x5x6x7uR001x2yAx3yAyBx4x5x6x7x8x9w10yAx1x2x3x4x5x6yAx7x8x9w20x1x2x3x4x5x6x7x8x9uS001
x2yAx3x4x5x6yAx7x8x9w10x1x2x3x4yAyBx5x6x7yAx8x9w20x1x2x3x4x5x6yAyBx7x8x9w30x1x2x3x4x5yAx6x7x8x9w40x1
x2x3x4x5x6uT001x2x3yAx4x5x6x7yAx8yAx9yAw10x1yAx2x3x4x5x6yAx7x8x9w20x1x2x3x4x5x6x7x8x9w30x1x2yAx3yAx4
x5x6uU001x2x3x4x5x6yAyBx7x8x9w10x1x2x3x4x5x6x7x8x9w20x1x2x3yAx4x5x6x7x8x9yAw30x1x2yAx3x4x5x6x7x8x9
w40x1x2uV001yAyByCyDyEyFyGyHyIx2yAx3x4x5x6x7yAyBx8x9w10x1yAyByCx2yAyBx3x4x5x6x7x8x9w20yAyByCyDyEyFyG
yHyIyJyKyLx1x2x3yAx4x5x6x7x8yAx9yAw30yAx1yAx2x3yAx4x5x6x7yAx8x9w40yAvERTICAL JOINERuW001x2x3yAx4x5x6
x7x8x9yAw10yAx1x2x3x4yAx5x6x7yAx8yAx9w20x1x2x3x4yAx5uX001x2x3x4yAyBx5x6yAx7x8yAuY001yAx2x3x4x5x6x7x8
uZ001x2yAyByCyDx3yAyBx4yAx5yAx6x7x8x9w10x1x2x3x4x5yAyByCyDyEyFyGyHyIx6yAyByCyDyEyFyGyH
bIGHT PETALLED OUTLINED BLACK FLORETTEhOINTED BLACK STARoPINWHEEL STARoRECTILINEAR BLACK STAR
gSPOKED ASTERISKgTEARDROP-SPOKED PROPELLER ASTERISKfH NOTEbJECT SYMBOLbLBASAN LETTER ApBEpCEqHEpDE
qHEpEqIpFEpGEqHAMMArEqJEpHEpIpJEpKEqHEpLEqLEpMEpNAqDEqEqJEpOpPEpQEpREqREpSEqHEpTEqHEpUpVEpXEpYpZEqHE
cECTRIC ARROWjLIGHT BULBjPLUGjTORCHiAL INTERSECTIONdMENT OFk OPENING DOWNWARDStUPWARDS
lWITH DOT ABOVEqLONG HORIZONTAL STROKEqOVERBARqTWO HORIZONTAL STROKESqUNDERBAR
qVERTICAL BAR AT END OF HORIZONTAL STROKEdPHANTdVATORcFcYMAIC LETTER ALEPHqYINpBETHpDALETHpGIMELpHE
rTHpKAPHpLAMEDHpMEMpNUNpPEpQOPHpRESHpSADHErMEKHqHINpTAWqETHpWAWpYODHpZAYINjIGATURE ZAYIN-YODHbM DASH
dQUADdSPACEcOJI COMPONENT BALDqCURLY HAIRqRED HAIRqWHITE HAIRgMODIFIER FITZPATRICK TYPE-1-2zh3zh4zh5
zh6cPHASIS SYMBOLdTY DOCUMENTgNESThOTEk PADnGEgPAGEkSgSETj WITH LEFT ARROW ABOVEpOVERBAR
pRIGHT ARROW ABOVEpSMALL CIRCLE ABOVEbN DASHdQUADdSPACEcD OF GUARDED AREAhLINEhMEDIUMhPROOF
kTECTED AREAhSELECTED AREAhTEXTiRANSMISSIONt BLOCKeWITH LEFTWARDS ARROW ABOVEcQdUIRYcTER SYMBOL
cVELOPEi WITH DOWNWARDS ARROW ABOVEoLIGHTNINGbOLcMcTbPAbQUAL AND PARALLEL TOgTO BY DEFINITION
jOR GREATER-THANmLESS-THANmPRECEDESmSUCCEEDSfS COLONhSIGNl ABOVE LEFTWARDS ARROWsPLUS SIGN
sRIGHTWARDS ARROWsTILDE OPERATORnND SLANTED PARALLELzh WITH TILDE ABOVEmWITH BUMPY ABOVErDOT BELOW
rINFINITY BELOWrTWO DOTS ABOVE AND TWO DOTS BELOWhWITH ASTERISKdIANGULAR TOeVALENT TO
lWITH FOUR DOTS ABOVEbRASE TO THE LEFTnRIGHTcIS FORM ONEkTWOcROR-BARRED BLACK CIRCLEtDIAMONDtSQUARE
nWHITE CIRCLEtDIAMONDtSQUAREbSAcCdAPEcTIMATED SYMBOLiSbTBcHIOPIC COLON
lMBINING GEMINATION AND VOWEL LENGTH MARKzfMARKtVOWEL LENGTH MARKmMAjDIGIT EIGHTpFIVEqOURpNINEpONE
pSEVENqIXpTHREEqWOjFULL STOPjNUMBER EIGHTYqFIFTYrORTYqHUNDREDqNINETYqSEVENTYrIXTYqTENt THOUSAND
rHIRTYrWENTYjPARAGRAPH SEPARATORkREFACE COLONjQUESTION MARKjSECTION MARKlMICOLONkYLLABLE BAuAtBAvAuE
vEuIuOuUtEuEtItOuAtUtWAuEvEuIsCAuAtCAvAuEvEuHAwAvEwEvHAxAwExEwIwOwUvIvOvUuIuOuUtEuEtHAvAuEvEuIuOvAuU
uWAtItOuAtUtWAsDAuAtDAvAuEvEuHAAvEwEvIvOvUuIuOvAuUuWAtEuEtItOuAtUtWAtZAAuEvEuIuOuUsFAuAtEuEtItOtUtWA
uEvEuItYAsGAuAtEuEtGAvAuEvEuIuOuUuWAwAvEwEvItItLOTTAL AzcAzbEzcEzbIzbOzcAzbUzbWAtOuAtUuRAGE BWEEzcI
zFWEEzcIzGWEzdEzcIzHHWAzKWEzdEzcIzMWEEzcIzPWEEzcIzQWEzdEzcItWAvAuEvEuItYAvAuEvEuIuOuUsHAuAtEuEtHAvA
uEvEuIuOuUuWAvEwEvIuYAwAvEwEvIvOvUtItOuAtUsJAuAtEuEtItOuAtUtWAsKAuAtEuEtItOuAtUtWAvAuEvEuItXAvAuEvE
uIuOuUuWAwAvEwEvItYAvAuEvEuIuOuUsLAuAtEuEtItOuAtUtWAsMAuAtEuEtItOuAtUtWAuEvEuItYAsNAuAtEuEtItOuAtU
tWAtYAvAuEvEuIuOvAuUuWAsPAuAtEuEtHAvAvRYNGEAL AzfAzeEzfEzeIzeOzeUuEvEuIuOvAuUuWAtItOuAtUtWAuEvEuIsQA
uAtEuEtHAvAuEvEuIuOuUuWAwAvEwEvItItOuAtUtWAvAuEvEuItYAvAuEvEuIuOuUsRAuAtEuEtItOuAtUtWAtYAsSAuAtE
uBATBEIT BWAzdFWAzdMWAzdPWAuEtHAvAuEvEuIuOvAuUuWAtItOuAtSAvAuEvEuIuOuUtUtWAtZAvAuEvEuIuOuUuWAsTAuAtE
uEtHAvAuEvEuIuOvAuUuWAtItOuAtSAvAuEvEuIuOuUuWAtTHAAvEwEvIvOvUtUtWAtZAvAuEvEuIuOvAuUsVAuAtEuEtItOtU
tWAsWAuAtEuEtItOuAtUsXAuAtEuEtItOuAtUtWAvAuEvEuItYAvAuEvEuIuOuUsYAuAtEuEtItOuAtUsZAuAtEuEtHAvAuEvEuI
uOuUuWAtItOuAtUtWAtZAvAuEvEuIuOuUjTONAL MARK CHIRETuDERETz-HIDETvIFATuHIDETuKENATvURTuRIKRIK
uSHORT RIKRIKuYIZETjWORDSPACEcXbULER CONSTANTcRO SIGNe-CURRENCY SIGNePEAN CASTLEjPOST OFFICE
bVERGREEN TREEbXCESSdLAMATION MARKmQUESTION MARKcPRESSIONLESS FACEcTENDED ARABIC-INDIC DIGIT EIGHT
zdFIVEzeOURzdNINEzdONEzdSEVENzeIXzdTHREEzeWOzdZEROdRATERRESTRIAL ALIEN
eEMELY HEAVY FIVE SPOKED ASTERISKqGREEK CROSSqSALTIRErIX SPOKED ASTERISKqWHITE CIRCLEwSQUAREbYE
dGLASSESdSaFACE HOLDING BACK TEARSfMASSAGEfPALMfSAVOURING DELICIOUS FOODgCREAMING IN FEAR
fTHROWING A KISSfWITH COLD SWEATmWBOY HATkDIAGONAL MOUTHkFINGER COVERING CLOSED LIPSkHEAD-BANDAGE
kLOOK OF TRIUMPHkMEDICAL MASKlONOCLEkNO GOOD GESTUREkOK GESTURElNE EYEBROW RAISED
lPEN EYES AND HAND OVER MOUTHpMOUTHu AND COLD SWEATvVOMITINGkPARTY HORN AND PARTY HATlEEKING EYE
lLEADING EYESkROLLING EYESkSTUCK-OUT TONGUEzb AND TIGHTLY-CLOSED EYESzgWINKING EYEkTEARS OF JOY
lHERMOMETERkUNEVEN EYES AND WAVY MOUTHjOUT MOUTHdSIMILE SIGNdTORYcIRYcLAFELdLEN LEAF
eING DIAGONAL CROSSING NORTH EAST ARROWzbRISING DIAGONALrIN WHITE CIRCLE IN BLACK SQUAREcMILY
cRSI SYMBOLcTHER CHRISTMAScX ICONeMACHINEbEARFUL FACEdTHERcMALE SIGNdININE ORDINAL INDICATORcNCER
cRRIS WHEELeYbFbIELD HOCKEY STICK AND BALLcGURE DASHhSPACEcLE CABINETfFOLDERfSEPARATORdM FRAMES
fPROJECTORcNITE PART INTEGRALcREe ENGINEgXTINGUISHEReCRACKEReWORK SPARKLERiSdST PLACE MEDAL
gQUARTER MOONs SYMBOLtWITH FACEgSTRONG ISOLATEcSHe CAKE WITH SWIRL DESIGNeEYEeING POLE AND FISH
dTED HAND SIGNcVE DOT MARKjPUNCTUATIONbLAG IN HOLEdMINGOdT SHOEeBREADeNESScEUR-DE-LISdXED BICEPS
cOPPY DISKdRAL HEARTdWERg PLAYING CARDSiUNCTUATION MARKcUSHED FACEcYdING DISChENVELOPEhSAUCERbOGdGY
cLDERcNDUEcOTePRINTScR ALLdCESdK AND KNIFEo WITH PLATEeED PARAGRAPHOSeINGdM FEEDdTUNE COOKIEcUNTAIN
dR BALLOON-SPOKED ASTERISKfCLUB-SPOKED ASTERISKgORNER ARROWS CIRCLING ANTICLOCKWISEfDOT MARK
jPUNCTUATIONfLEAF CLOVERfPOINTED BLACK STARfTEARDROP-SPOKED ASTERISKe-PER-EM SPACEeTH ROOTcX FACE
bRACTION NUMERATOR ONEjSLASHdME WITH AN XlPICTURElTILEScEEZING FACEdNCH FRANC SIGNjIEScIED SHRIMP
cOG FACEdNT-FACING BABY CHICKgTILTED SHADOWED WHITE RIGHTWARDS ARROWdWNfING FACE WITH OPEN MOUTHbScI
bUEL PUMPcLL BLOCKfMOON SYMBOLkWITH FACEfOUTER JOINfSTOPeWIDTH AMPERSANDlPOSTROPHElSTERISK
kBROKEN BARkCENT SIGNlIRCUMFLEX ACCENTlOLONmMMAoERCIAL ATkDIGIT EIGHTqFIVErOURqNINEqONEqSEVENrIX
qTHREErWOqZEROlOLLAR SIGNkEQUALS SIGNlXCLAMATION MARKkFULL STOPkGRAVE ACCENTmEATER-THAN SIGN
kHYPHEN-MINUSkLATIN CAPITAL LETTER AzgBzgCzgDzgEzgFzgGzgHzgIzgJzgKzgLzgMzgNzgOzgPzgQzgRzgSzgTzgUzgV
zgWzgXzgYzgZqSMALL LETTER AzeBzeCzeDzeEzeFzeGzeHzeIzeJzeKzeLzeMzeNzeOzePzeQzeRzeSzeTzeUzeVzeWzeXzeY
zeZlEFT CURLY BRACKETpPARENTHESISpSQUARE BRACKETpWHITE PARENTHESISmSS-THAN SIGNlOW LINEkMACRON
kNOT SIGNlUMBER SIGNkPERCENT SIGNlLUS SIGNlOUND SIGNkQUESTION MARKmOTATION MARKkREVERSE SOLIDUS
lIGHT CURLY BRACKETqPARENTHESISqSQUARE BRACKETqWHITE PARENTHESISkSEMICOLONlOLIDUSkTILDE
kVERTICAL LINEkWON SIGNkYEN SIGNcNCTION APPLICATIONdERAL URNcSEbVS1d2d3d4aGAME DIEcRLICbEAR
e WITH HANDLESjOUT HUBcM STONEdINIcNIEcOMETRIC PROPORTIONjALLY EQUAL TOrIVALENT TO
dRGIAN CAPITAL LETTER AENzNyBANyCANzHARzbINzILyDONyENyGANzHANyHAEzbRzEzIEzOEyINyJHANzILyKANzHARyLAS
yMANyNARyONyPARzHARyQARyRAEySANzHINyTANzbRyUNyVINyWEyXANyYNyZENzHARjLETTER AENrINrNqBANqCANrHARsIN
rILqDONqELIFIrNqFIqGANrHANqHAEsRtD SIGNrErIErOEqINqJHANrILqKANrHARqLABIAL SIGNsSqMANqNARqONqPARrHAR
qQARqRAEqSANrHINqTANsRrURNED GANqUNqVINqWEqXANqYNqZENrHARjMTAVRULI CAPITAL LETTER AENzjINzjNziBAN
ziCANzjHARzkINzjILziDONziELIFIzjNziFIziGANzjHANziHAEzkRzlD SIGNzjEzjIEzjOEziINziJHANzjILziKANzjHAR
ziLABIAL SIGNzkSziMANziNARziONziPARzjHARziQARziRAEziSANzjHINziTANzkRzjURNED GANziUNziVINziWEziXAN
ziYNziZENzjHARjPARAGRAPH SEPARATORjSMALL LETTER AENxNwBANwCANxHARyINxILwDONwENwGANxHANwHAEyRxExIExOE
wINwJHANxILwKANxHARwLASwMANwNARwONwPARxHARwQARwRAEwSANxHINwTANyRwUNwVINwWEwXANwYNwZENxHAR
cRMAN PENNY SIGNcTA MARKbHOSTbIMEL SYMBOLcRAFFE FACEdLeS SYMBOLbLAGOLITIC CAPITAL LETTER AZU
zbBIG YUSzcUKYzbCAUDATE CHRIVIzcHRIVIzbDJERVIzcOBROzcZELOzbFITAzcRITUzbGLAGOLIzbHERUzbIzcNITIAL IZHE
zcOTATED BIG YUSzjSMALL YUSzcZHEzeITSAzbKAKOzbLATINATE MYSLITEzcJUDIJEzbMYSLITEzbNASHIzbONUzcTUzbPE
zcOKOJIzbRITSIzbSHAzdTAzfPICzcLOVOzcMALL YUSzk WITH TAILzcPIDERY HAzbTROKUTASTI AzcSIzcVRIDOzbUKU
zbVEDEzbYATIzcERIzeUzdSTUzcOzcUzbZEMLJAzcHIVETElSMALL LETTER AZUyBIG YUSzUKYyCAUDATE CHRIVIzHRIVI
yDJERVIzOBROzZELOyFITAzRITUyGLAGOLIyHERUyIzNITIAL IZHEzOTATED BIG YUSzhSMALL YUSzZHEzcITSAyKAKO
yLATINATE MYSLITEzJUDIJEyMYSLITEyNASHIyONUzTUyPEzOKOJIyRITSIySHAzbTAzdPICzLOVOzMALL YUSzi WITH TAIL
zPIDERY HAyTROKUTASTI AzSIzVRIDOyUKUyVEDEyYATIzERIzcUzbSTUzOzUyZEMLJAzHIVETEdSS OF MILKcEICH STARK
cOBE WITH MERIDIANSdVESdWING STARbOAL NETdTcGGLEScLFERcRILLAcTHIC LETTER AHSApIHVUSoBAIRKANoDAGSoEIS
oFAIHUoGIBAoHAGLpWAIRoIGGWSpUJAoJERoKUSMAoLAGUSoMANNAoNAUTHSpINE HUNDREDsTYoOTHALoPAIRTHRAoQAIRTHRA
oRAIDAoSAUILoTEIWSpHIUTHoURUSoWINJAbRADUATION CAPdNTHA AU LENGTH MARKiLETTER AqAqIqUpBAqHApCAqHApDA
qDArHAqHApEEpGAqHApHApIqIpJAqHApKAqHApLAqLApMApNAqGAqNAqYApOOpPAqHApRApSAqHAqSApTAqHAqTArHApUqUpVA
qEDIC ANUSVARAvDOUBLE ANUSVARAqOCALIC LyLxRyRpYAiOMiSIGN ANUSVARAoVAGRAHAnCANDRABINDU
oOMBINING ANUSVARA ABOVEnNUKTAnPLUTAnVIRAMApSARGAiVOWEL SIGN AAuIuUtEEtIuItOOtUuUtVOCALIC LzdLzcRzdR
dPESdVE ACCENTcEATER-THAN ABOVE DOUBLE-LINE EQUAL ABOVE LESS-THANtLESS-THAN ABOVE DOUBLE-LINE EQUAL
tRIGHTWARDS ARROWtSIMILAR ABOVE LESS-THANzcOR EQUALuLANTED EQUAL ABOVE LESS-THAN ABOVE SLANTED EQUAL
oND NOT APPROXIMATErSINGLE-LINE NOT EQUAL TOnBESIDE LESS-THANoUT NOT EQUAL TOyIVALENT TO
nCLOSED BY CURVEzd ABOVE SLANTED EQUALnEQUAL TO OR LESS-THANnOR APPROXIMATEqEQUAL TOtIVALENT TO
qLESS-THANqSLANTED EQUAL TOzh WITH DOT ABOVEzw LEFTzrINSIDEoVER EQUAL TOrLAPPING LESS-THANnSIGN
nWITH CIRCLE INSIDEsDOTsQUESTION MARK ABOVEdEK ACROPHONIC ATTIC FIFTYzd STATERSzeTALENTSzfHOUSAND
zm STATERSzVEzc HUNDREDzk STATERSzlTALENTSzdSTATERSzdTALENTSzeHOUSANDzl TALENTSxONE DRACHMAzcHALF
zdUNDRED STATERSzkTALENTSzcQUARTERzcTHOUSAND STATERSzlTALENTSxTEN MNASzcSTATERSzcTALENTS
zdHOUSAND STATERSrCARYSTIAN FIVE HUNDREDsYRENAIC TWO DRACHMASrDELPHIC FIVE MNAS
rEPIDAUREAN FIVE HUNDREDzdTWOzg DRACHMASrHERAEUM ONE PLETHRONuMIONIAN FIFTYzdONEzdTENrMESSENIAN TEN
rNAXIAN FIVE HUNDREDrSTRATIAN FIFTY MNASrTHESPIAN FIFTYzdVE HUNDREDzgTHOUSANDzbONEze HUNDRED
zfTHOUSANDzbTENzcHIRTYzdREE HUNDREDzcWOsROEZENIAN FIFTYzi ALTERNATE FORMzfVEzh HUNDREDzdTEN
zg ALTERNATE FORMhNO TELEIAhROURA SIGNiTABE SIGNgBETA SYMBOLgCAPITAL DOTTED LUNATE SIGMA SYMBOL
oKAI SYMBOLoLETTER ALPHAzb WITH DASIAzm AND OXIAzv AND PROSGEGRAMMENIzrPERISPOMENI
zzd AND PROSGEGRAMMENIzsROSGEGRAMMENIzrVARIAzw AND PROSGEGRAMMENIzhMACRONzhOXIAzhPROSGEGRAMMENI
ziSILIzm AND OXIAzv AND PROSGEGRAMMENIzrPERISPOMENIzzd AND PROSGEGRAMMENIzsROSGEGRAMMENIzrVARIA
zw AND PROSGEGRAMMENIzhTONOSzhVARIAziRACHYwRCHAIC SAMPIvBETAvCHIvDELTAvEPSILONzd WITH DASIA
zo AND OXIAztVARIAzjOXIAzjPSILIzo AND OXIAztVARIAzjTONOSzjVARIAwTAy WITH DASIAzk AND OXIA
zt AND PROSGEGRAMMENIzpPERISPOMENIzzb AND PROSGEGRAMMENIzqROSGEGRAMMENIzpVARIAzu AND PROSGEGRAMMENI
zfOXIAzfPROSGEGRAMMENIzgSILIzk AND OXIAzt AND PROSGEGRAMMENIzpPERISPOMENIzzb AND PROSGEGRAMMENI
zqROSGEGRAMMENIzpVARIAzu AND PROSGEGRAMMENIzfTONOSzfVARIAvGAMMAvHETAvIOTAz WITH DASIAzl AND OXIA
zqPERISPOMENIzqVARIAzhIALYTIKAzgMACRONzgOXIAzgPSILIzl AND OXIAzqPERISPOMENIzqVARIAzgTONOSzgVARIA
zhRACHYvKAPPAvLAMDAvMUvNUvOMEGAzb WITH DASIAzm AND OXIAzv AND PROSGEGRAMMENIzrPERISPOMENI
zzd AND PROSGEGRAMMENIzsROSGEGRAMMENIzrVARIAzw AND PROSGEGRAMMENIzhOXIAzhPROSGEGRAMMENIziSILI
zm AND OXIAzv AND PROSGEGRAMMENIzrPERISPOMENIzzd AND PROSGEGRAMMENIzsROSGEGRAMMENIzrVARIA
zw AND PROSGEGRAMMENIzhTONOSzhVARIAxICRONzd WITH DASIAzo AND OXIAztVARIAzjOXIAzjPSILIzo AND OXIA
ztVARIAzjTONOSzjVARIAvPAMPHYLIAN DIGAMMAwHIwIwSIvRHOy WITH DASIAvSANwHOwIGMAvTAUwHETAvUPSILON
zd WITH DASIAzo AND OXIAztPERISPOMENIztVARIAzkIALYTIKAzjMACRONzjOXIAzjTONOSzjVARIAzkRACHYvXIvYOT
vZETApUNATE SIGMA SYMBOLoREVERSED DOTTED LUNATE SIGMA SYMBOLxLUNATE SIGMA SYMBOLoTHETA SYMBOLgDASIA
l AND OXIAqPERISPOMENIqVARIAhIALYTIKA AND OXIAuPERISPOMENIuVARIAqTONOShRACHMA SIGNgFIVE OBOLS SIGN
hOUR OBOLS SIGNgGRAMMA SIGNgINDICTION SIGNiSTRUMENTAL NOTATION SYMBOL-1zl1zl2zl3zl4zl7zl8zl9zk2zl3
zl4zl5zl6zl7zl9zk30zl2zl6zl7zl8zl9zk4zl0zl2zl3zl5zl7zl8zl9zk5zl0zl1zl2zl3zl4zk7zk8gKAI SYMBOL
iPPA SYMBOLhORONIShYATHOS BASE SIGNgLETTER ARCHAIC KOPPAnDIGAMMAnKOPPAnSAMPIoMALL CAPITAL GAMMA
zcLAMDAzcOMEGAzcPIzdSIzcRHOoTIGMAnYOThITRA SIGNhOWER NUMERAL SIGNhUNATE EPSILON SYMBOLnSIGMA SYMBOL
gMETRETES SIGNhUSICAL LEIMMAgNUMERAL SIGNgOBOL SIGNhNE HALF SIGNt ALTERNATE FORMkQUARTER SIGN
hUNKIA SIGNhXIAgPERISPOMENIhHI SYMBOLhI SYMBOLhROSGEGRAMMENIhSILIl AND OXIAqPERISPOMENIqVARIA
gQUESTION MARKgREVERSED LUNATE EPSILON SYMBOLhHO SYMBOLkWITH STROKE SYMBOLgSINUSOID SIGN
hMALL DOTTED LUNATE SIGMA SYMBOLmLETTER ALPHAy WITH DASIAzk AND OXIAzt AND YPOGEGRAMMENI
zpPERISPOMENIzzb AND YPOGEGRAMMENIzpVARIAzu AND YPOGEGRAMMENIzpYPOGEGRAMMENIzfMACRONzfOXIA
zj AND YPOGEGRAMMENIzfPERISPOMENIzq AND YPOGEGRAMMENIzgSILIzk AND OXIAzt AND YPOGEGRAMMENI
zpPERISPOMENIzzb AND YPOGEGRAMMENIzpVARIAzu AND YPOGEGRAMMENIzpYPOGEGRAMMENIzfTONOSzfVARIA
zk AND YPOGEGRAMMENIzgRACHYzfYPOGEGRAMMENIuRCHAIC KOPPAzcSAMPItBETAtCHItDELTAuIGAMMAtEPSILON
zb WITH DASIAzm AND OXIAzrVARIAzhOXIAzhPSILIzm AND OXIAzrVARIAzhTONOSzhVARIAuTAw WITH DASIA
zi AND OXIAzr AND YPOGEGRAMMENIznPERISPOMENIzy AND YPOGEGRAMMENIznVARIAzs AND YPOGEGRAMMENI
znYPOGEGRAMMENIzdOXIAzh AND YPOGEGRAMMENIzdPERISPOMENIzo AND YPOGEGRAMMENIzeSILIzi AND OXIA
zr AND YPOGEGRAMMENIznPERISPOMENIzy AND YPOGEGRAMMENIznVARIAzs AND YPOGEGRAMMENIznYPOGEGRAMMENI
zdTONOSzdVARIAzi AND YPOGEGRAMMENIzdYPOGEGRAMMENItFINAL SIGMAtGAMMAtHETAtIOTAx WITH DASIAzj AND OXIA
zoPERISPOMENIzoVARIAzfIALYTIKAzn AND OXIAzsPERISPOMENIzsTONOSzsVARIAzeMACRONzeOXIAzePERISPOMENI
zfSILIzj AND OXIAzoPERISPOMENIzoVARIAzeTONOSzeVARIAzfRACHYtKAPPAuOPPAtLAMDAtMUtNUtOMEGAy WITH DASIA
zk AND OXIAzt AND YPOGEGRAMMENIzpPERISPOMENIzzb AND YPOGEGRAMMENIzpVARIAzu AND YPOGEGRAMMENI
zpYPOGEGRAMMENIzfOXIAzj AND YPOGEGRAMMENIzfPERISPOMENIzq AND YPOGEGRAMMENIzgSILIzk AND OXIA
zt AND YPOGEGRAMMENIzpPERISPOMENIzzb AND YPOGEGRAMMENIzpVARIAzu AND YPOGEGRAMMENIzpYPOGEGRAMMENI
zfTONOSzfVARIAzk AND YPOGEGRAMMENIzfYPOGEGRAMMENIvICRONzb WITH DASIAzm AND OXIAzrVARIAzhOXIAzhPSILI
zm AND OXIAzrVARIAzhTONOSzhVARIAtPAMPHYLIAN DIGAMMAuHIuIuSItRHOw WITH DASIAzdPSILItSAMPIvNuHOuIGMA
uTIGMAtTAUuHETAtUPSILONzb WITH DASIAzm AND OXIAzrPERISPOMENIzrVARIAziIALYTIKAzq AND OXIA
zvPERISPOMENIzvTONOSzvVARIAzhMACRONzhOXIAzhPERISPOMENIziSILIzm AND OXIAzrPERISPOMENIzrVARIAzhTONOS
zhVARIAziRACHYtXItZETAmREVERSED DOTTED LUNATE SIGMA SYMBOLvLUNATE SIGMA SYMBOL
hUBSCRIPT SMALL LETTER BETAzeCHIzeGAMMAzePHIzeRHOhYMBOL TAU RHOgTALENT SIGNhHETA SYMBOL
iREE OBOLS SIGNmQUARTERS SIGNhONOShRYBLION BASE SIGNhWO OBOLS SIGNkTHIRDS SIGN
gUPSILON WITH ACUTE AND HOOK SYMBOLtDIAERESIS AND HOOK SYMBOLtHOOK SYMBOLgVARIA
hOCAL NOTATION SYMBOL-1ze0ze1ze2ze3ze4ze5ze6ze7ze8ze9zd2ze0ze1ze2ze3ze4zd3zd4zd5ze0ze1ze2ze3ze4zd6
zd7zd8zd9gXESTES SIGNgYEAR SIGNhPOGEGRAMMENIgZERO SIGNeN APPLEgBOOKgHEARTgSALADcIMACING FACE
dNNING CAT FACE WITH SMILING EYESjFACEn WITH ONE LARGE AND ONE SMALL EYEtSMILING EYESuTAR EYES
cOUP MARKgSEPARATORdWING HEARTbSbUARANI SIGNeDSMANcIDE DOGdTARcJARATI ABBREVIATION SIGNjDIGIT EIGHT
pFIVEqOURpNINEpONEpSEVENqIXpTHREEqWOpZEROjLETTER ArArIrUqBArHAqCArHAqDArDAsHArHAqEqGArHAqHAqIrIqJA
rHAqKArHAqLArLAqMAqNArGArNArYAqOqPArHAqRAqSArHArSAqTArHArTAsHAqUrUqVArOCALIC LzLyRzRqYAqZHAjOM
jRUPEE SIGNjSIGN ANUSVARApVAGRAHAoCANDRABINDUpIRCLE NUKTA ABOVEoMADDAHoNUKTAoSHADDApUKUN
oTHREE-DOT NUKTA ABOVEpWO-CIRCLE NUKTA ABOVEoVIRAMAqSARGAjVOWEL CANDRA EwOpSIGN AAvIvUuCANDRA EzcOuE
uIvIuOuUvUuVOCALIC LzeLzdRzeRcNJALA GONDI DIGIT EIGHTuFIVEvOURuNINEuONEuSEVENvIXuTHREEvWOuZERO
oLETTER AwAwIwUvBAwHAvCAwHAvDAwDAxHAwHAvEEvGAwHAvHAvIwIvJAwHAvKAwHAvLAwLAvMAvNAwGAvOOvPAwHAvRAvSAvTA
wHAwTAxHAvUwUvVAvYAoOMoSIGN ANUSVARAtVISARGAoVIRAMApOWEL SIGN AAzbIzbUzEEzIzbIzOOzUzbU
cRMUKHI ABBREVIATION SIGNkDDAKjDIGIT EIGHTpFIVEqOURpNINEpONEpSEVENqIXpTHREEqWOpZEROjEK ONKARjIRI
jLETTER ArArIrUqBArHAqCArHAqDArDAsHArHAqEEqFAqGArHAsHAqHAqIrIqJArHAqKArHAsHAqLArLAqMAqNArGArNArYAqOO
qPArHAqRArRAqSArHAqTArHArTAsHAqUrUqVAqYAqZAjSIGN ADAK BINDIoBINDIoNUKTAoUDAAToVIRAMAqSARGAoYAKASH
jTIPPIjURAjVOWEL SIGN AAvIvUuEEuIvIuOOuUvUaHADEScIR SPACEeCUTcLFWIDTH BLACK SQUAREkDOWNWARDS ARROW
kFORMS LIGHT VERTICALkHANGUL FILLERrLETTER AzEyCHIEUCHzIEUCyEzOzUyHIEUHyIzEUNGyKHIEUKHzIYEOKzf-SIOS
yMIEUMyNIEUNze-CIEUCzfHIEUHyOzEyPHIEUPHzIEUPze-SIOSyRIEULze-HIEUHzfKIYEOKzfMIEUMzfPHIEUPHzgIEUP
zfSIOSzfTHIEUTHySIOSzSANGCIEUCzeKIYEOKzePIEUPzeSIOSzeTIKEUTyTHIEUTHzIKEUTyUyWAzbEzEzbOzIyYAzbEzEzbO
zIzOzUkIDEOGRAPHIC COMMAwFULL STOPkKATAKANA LETTER AzbEzbHAzcEzcIzcOzcUzbIzbKAzcEzcIzcOzcUzbMAzcEzcI
zcOzcUzbNzcAzcEzcIzcOzcUzbOzbRAzcEzcIzcOzcUzbSAzcEzcIzcMALL AzhEzhIzhOzhTUzhUzhYAziOziUzcOzcUzbTAzcE
zcIzcOzcUzbUzbWAzcOzbYAzcOzcUtMIDDLE DOTtSEMI-VOICED SOUND MARKtVOICED SOUND MARK
s-HIRAGANA PROLONGED SOUND MARKkLEFT CORNER BRACKEToWARDS ARROWkRIGHT CORNER BRACKETpWARDS ARROW
kUPWARDS ARROWkWHITE CIRCLEcMBURGERdMERg AND PICKlSICKLElWRENCHdSAeTER FACE
cND WITH INDEX AND MIDDLE FINGERS CROSSEDqFINGER AND THUMB CROSSEDeBAGgLLeSHAKE
dGUL CHOSEONG CEONGCHIEUMCHIEUCHzdIEUCzcSIOSzdSANGCIEUCzhSIOSrHIEUCHx-HIEUHyKHIEUKHtTUEUMCHIEUCH
zIEUCySIOSzSANGCIEUCzeSIOSrIEUCv-IEUNGqFILLERqHIEUHv-SIOSqIEUNGv-CHIEUCHxIEUCwHIEUHwKIYEOKwMIEUM
wPANSIOSxHIEUPHxIEUPwRIEULwSIOSwTHIEUTHxIKEUTqKAPYEOUNMIEUMyPHIEUPHzIEUPyRIEULySSANGPIEUPrHIEUKH
rIYEOKw-TIKEUTqMIEUMv-KIYEOKwPIEUPwSIOSwTIKEUTqNIEUNv-CIEUCwHIEUHwKIYEOKwPIEUPwSIOSwTIKEUTqPANSIOS
rHIEUPHx-HIEUHyPIEUPrIEUPv-CHIEUCHxIEUCwHIEUHwKHIEUKHxIYEOKwNIEUNwPHIEUPHwSIOSzb-CIEUCzcKIYEOK
zcPIEUPzcTHIEUTHzdIKEUTxSANGSIOSwTHIEUTHxIKEUTqRIEULv-CIEUCwHIEUHwKAPYEOUNPIEUPxHIEUKHxIYEOKwMIEUM
wNIEUNwPIEUPwSIOSxSANGKIYEOKzcPIEUPzcTIKEUTwTIKEUTqSIOSu-CHIEUCHwIEUCvHIEUHvIEUNGvKHIEUKHwIYEOK
vMIEUMvNIEUNvPHIEUPHwIEUPzb-KIYEOKvRIEULvSSANGSIOSvTHIEUTHwIKEUTrSANGCIEUCzb-HIEUHvHIEUHvIEUNG
vKIYEOKvNIEUNvPIEUPvRIEULvSIOSz-PIEUPvTHIEUTHwIKEUTvYEORINHIEUHqTHIEUTHrIKEUTw-CIEUCxKIYEOKxMIEUM
xPIEUPxRIEULxSIOSqYEORINHIEUHsSIEUNGhDOUBLE DOT TONE MARKhFILLERhJONGSEONG CHIEUCHsIEUCw-PIEUP
xSSANGPIEUPrHIEUHw-MIEUMxNIEUNxPIEUPxRIEULrIEUNGw-KHIEUKHyIYEOKxSSANGKIYEOKrKAPYEOUNMIEUMzPHIEUPH
zbIEUPzRIEULsHIEUKHsIYEOKx-CHIEUCHyHIEUHyKHIEUKHyNIEUNyPIEUPyRIEULySIOSzd-KIYEOKrMIEUMw-CHIEUCHyIEUC
xHIEUHxKIYEOKxNIEUNxPANSIOSyIEUPzd-SIOSxRIEULxSIOSySANGNIEUNzdSIOSrNIEUNw-CHIEUCHyIEUCxHIEUHxKIYEOK
xPANSIOSxRIEULxSIOSxTHIEUTHyIKEUTrPANSIOSy-KAPYEOUNPIEUPzPIEUPsHIEUPHy-PIEUPzSIOSzTHIEUTHsIEUP
w-CHIEUCHyIEUCxHIEUHxMIEUMxPHIEUPHxRIEULzd-PHIEUPHxSIOSzc-TIKEUTxTIKEUTrRIEULw-HIEUHxKAPYEOUNPIEUP
yHIEUKHyIYEOKze-HIEUHzfSIOSxMIEUMzd-HIEUHzeKIYEOKzeSIOSxNIEUNxPANSIOSyHIEUPHyIEUPzd-HIEUHzePHIEUPH
zeSIOSzeTIKEUTxSIOSySANGKIYEOKzdSIOSxTHIEUTHyIKEUTze-HIEUHxYEORINHIEUHzj-HIEUHzSIEUNGrSIOSv-CHIEUCH
xIEUCwHIEUHwKAPYEOUNPIEUPxIYEOKwMIEUMwPANSIOSxIEUPwRIEULwTHIEUTHxIKEUTsSANGCIEUCwIEUNGwKIYEOKwMIEUM
wNIEUNwPIEUPwRIEULzc-KHIEUKHwSIOSzb-KIYEOKzcTIKEUTwTIKEUTzd-PIEUPwYESIEUNGrTHIEUTHsIKEUTx-CHIEUCH
zIEUCyKIYEOKyPIEUPyRIEULySIOSzd-KIYEOKyTHIEUTHrYEORINHIEUHtSIEUNGz-HIEUHzbKHIEUKHzcIYEOKzbMIEUM
zbPANSIOSzbSIOSzcSANGKIYEOKiUNGSEONG As-EUtOtUsEsRAEAw-AxEyOxIxUrEsOt-EUuOuUsUt-AuEvOvUuOuUrFILLERrI
s-AuRAEAtEUtItOu-ItUtYAv-OvEuEvOuOuUrOs-EuOtOu-ItUtYAvEuEvOsErSSANGARAEArUs-AuEtEO-EUtI-ItUtYEvOrWA
tEsEtOsIrYAt-OuUuYOtEsEtOu-OvUvYAsIt-UsOt-AvEuEOuIuOuYAwEvEOsUt-AvEuEvOuIuOuUuYEwOhLETTER ApEpRAEAtE
oCHIEUCHpIEUCoEpOpUoHIEUHoIpEUNGoKAPYEOUNMIEUMwPHIEUPHxIEUPwSSANGPIEUPpHIEUKHpIYEOKu-SIOSoMIEUM
t-PANSIOSvIEUPuSIOSoNIEUNt-CIEUCuHIEUHuPANSIOSuSIOSuTIKEUToOpEoPANSIOSpHIEUPHpIEUPt-CIEUCuKIYEOK
uSIOSy-KIYEOKzTIKEUTuTHIEUTHvIKEUToRIEULt-HIEUHuKIYEOKzb-SIOSuMIEUMuPANSIOSvHIEUPHvIEUPz-SIOSuSIOS
uTHIEUTHvIKEUTuYEORINHIEUHoSIOSs-CIEUCtKIYEOKtNIEUNtPIEUPtTIKEUTpSANGCIEUCtHIEUHtIEUNGtKIYEOKtNIEUN
tPIEUPtSIOStTIKEUToTHIEUTHpIKEUToUoWAqEpEqOpIoYAqEpEqOrRINHIEUHqSIEUNGw-PANSIOSxSIOSpIpOq-IrYAtEpU
q-IrYEtOhSINGLE DOT TONE MARKeZHOU NUMERAL EIGHTrFIVEsOURrNINErONErSEVENsIXrTENsHIRTYtREEsWENTYtO
dIFI ROHINGYA DIGIT EIGHTwFIVExOURwNINEwONEwSEVENxIXwTHREExWOwZEROqLETTER AxBAxCAxDAyDAxFAxGAxHAxJA
xKAyHAyINNA WAzeYAxLAxMAxNAyGAyYAxPAxRAyRAxSAyHAxTAyTAxVAxWAxYAxZAqMARK NA KHONNAvSAKIN
qSIGN HARBAHAYvTAHALAxNAxSSIqVOWEL AwEwIwOwUdUNOO LETTER ApBApDApGApHApIpKApLApMApNAqGApPApRApSApTA
pUpWApYAiSIGN PAMUDPODiVOWEL SIGN ItUcPPY PERSON RAISING ONE HANDcRD DISKcTCHING CHICK
dRAN LETTER ALEPHpYNoBETHoDALETH-RESHoGIMELoHEqTHoKAPHoLAMEDHoMEMoNUNoPEoQOPHoSADHEqMEKHpHINoTAWpETH
oWAWoYODHoZAYNhNUMBER FIVEoONEr HUNDREDoTENpWENTYbEADPHONEeSTONEj GRAVEYARD SYMBOLdR-NO-EVIL MONKEY
eT DECORATIONgHANDSgWITH ARROWlRIBBONlTIP ON THE LEFTdVY AMPERSAND ORNAMENThRROW SHAFT WIDTH ONE
zc HALFzdTHIRDyTWO THIRDShSTERISKgBALLOT XhLACK CURVED DOWNWARDS AND RIGHTWARDS ARROW
tUPWARDS AND RIGHTWARDS ARROWmHEARTl-FEATHERED NORTH EAST ARROWwRIGHTWARDS ARROWwSOUTH EAST ARROW
gCHECK MARKjVRON SNOWFLAKEhIRCLEm WITH CIRCLE INSIDEsSTROKE AND TWO DOTS ABOVEmD SALTIRE
hONCAVE-POINTED BLACK RIGHTWARDS ARROWgDASHED TRIANGLE-HEADED RIGHTWARDS ARROWhIVISION SIGN
hOLLAR SIGNiUBLE COMMA QUOTATION MARK ORNAMENTnTURNED COMMA QUOTATION MARK ORNAMENT
iWNWARDS ARROW WITH EQUILATERAL ARROWHEADzcLARGE EQUILATERAL ARROWHEADgEIGHT POINTED BLACK STAR
uPINWHEEL STARuRECTILINEAR BLACK STARmSPOKED ASTERISKmTEARDROP-SPOKED PROPELLER ASTERISKhQUALS SIGN
hXCLAMATION MARK ORNAMENTxSYMBOLgFIVE POINTED BLACK STARlSPOKED ASTERISKhOUR BALLOON-SPOKED ASTERISK
gGREEK CROSSgHEART EXCLAMATION MARK ORNAMENThORIZONTAL FILLgINTERROBANG ORNAMENTgLARGE CIRCLE
iTIN CROSShEFT-POINTING ANGLE BRACKET ORNAMENTzbQUOTATION MARK ORNAMENT
kWARDS ARROW WITH EQUILATERAL ARROWHEADzcLARGE EQUILATERAL ARROWHEADhIGATURE OPEN ET ORNAMENT
hOW DOUBLE COMMA QUOTATION MARK ORNAMENTkSINGLE COMMA QUOTATION MARK ORNAMENT
jER RIGHT-SHADOWED WHITE RIGHTWARDS ARROWgMINUS SIGNhULTIPLICATION XgNORTH EAST ARROWrPOINTING BUD
zbVINE LEAFmWEST POINTING BUDzbVINE LEAFgOPEN CENTRE CROSShUTLINED BLACK STARhVAL WITH OVAL INSIDE
gPLUS SIGNgRIGHT-POINTING ANGLE BRACKET ORNAMENTzcQUOTATION MARK ORNAMENTlWARDS ARROW
w WITH EQUILATERAL ARROWHEADzdLARGE EQUILATERAL ARROWHEADhOUND-TIPPED RIGHTWARDS ARROWgSALTIRE
iNS-SERIF INTERROBANG ORNAMENThCRIPT LIGATURE ET ORNAMENThINGLE COMMA QUOTATION MARK ORNAMENT
nTURNED COMMA QUOTATION MARK ORNAMENTiX POINTED BLACK STARkSPOKED ASTERISKhOUTH EAST ARROW
rPOINTING BUDzbVINE LEAFmWEST POINTING BUDzbVINE LEAFhPARKLEgTEARDROP-SHANKED RIGHTWARDS ARROW
qPOKED ASTERISKwPINWHEEL ASTERISKhRIANGLE-HEADED RIGHTWARDS ARROWhWELVE POINTED BLACK STAR
vPINWHEEL STARgUPPER RIGHT-SHADOWED WHITE RIGHTWARDS ARROWiWARDS ARROW WITH EQUILATERAL ARROWHEAD
zLARGE EQUILATERAL ARROWHEADgVERTICAL BARgWEDGE-TAILED RIGHTWARDS ARROWhHITE CIRCLE
mDOWN-POINTING TRIANGLEmSQUAREhIDE-HEADED RIGHTWARDS ARROWcBREW ACCENT ATNAH HAFUKHoDARGApEHI
oETNAHTAoGERESHu MUQDAMrSHAYIMoILUYoMAHAPAKHpERKHAu KEFULApUNAHoOLEoPASHTAqZERoQADMAqRNEY PARAoREVIA
oSEGOLpHALSHELEToTELISHA GEDOLAwQETANAqVIRpIPEHAoYERAH BEN YOMOqTIVoZAQEF GADOLuQATANqRQApINOR
hLETTER ALEFs WITH MAPIQyPATAHyQAMATSqTERNATIVE AYINzbPLUS SIGNpYINoBETr WITH DAGESHxRAFEoDALET
t WITH DAGESHoFINAL KAFx WITH DAGESHuMEMuNUNuPEw WITH DAGESHuTSADIoGIMELt WITH DAGESHoHEq WITH MAPIQ
qToKAFr WITH DAGESHxRAFEoLAMEDt WITH DAGESHoMEMr WITH DAGESHoNUNr WITH DAGESHoPEq WITH DAGESHwRAFE
oQOFr WITH DAGESHoRESHs WITH DAGESHoSAMEKHu WITH DAGESHpHINs WITH DAGESHzf AND SHIN DOTzlIN DOT
ySHIN DOTzIN DOToTAVr WITH DAGESHpETr WITH DAGESHpSADIt WITH DAGESHoVAVr WITH DAGESHxHOLAMoWIDE ALEF
tDALETtFINAL MEMtHEtKAFtLAMEDtRESHtTAVoYODr WITH DAGESHxHIRIQoZAYINt WITH DAGESHiIGATURE ALEF LAMED
qYIDDISH DOUBLE VAVzgYODyVAV YODyYOD YOD PATAHhMARK LOWER DOTmMASORA CIRCLEmUPPER DOT
hPOINT DAGESH OR MAPIQnHATAF PATAHtQAMATStSEGOLoIRIQoOLAMs HASER FOR VAVnJUDEO-SPANISH VARIKAnMETEG
nPATAHnQAMATSt QATANoUBUTSnRAFEnSEGOLoHEVApIN DOToIN DOTnTSEREiUNCTUATION GERESHwSHAYIMtMAQAF
tNUN HAFUKHAtPASEQtSOF PASUQhYOD TRIANGLEcDGEHOGcLICOPTERdLSCHREIBER PAUSE SYMBOLdM SYMBOL
eET WITH WHITE CROSScNTAIGANA LETTER A-1u2u3uWOsE-1u2u3u4u5u6sHA-1w0w1v2v3v4v5v6v7v8v9tE-1v2v3v4v5v6
v7tI-1v2v3v4v5v6v7tO-1v2v3v4v5v6v7v8tU-1v2v3sI-1u2u3u4sKA-1w0w1v2v3v4v5v6v7v8v9vKEtE-1v2v3v4v5v6tI-1
v2v3v4v5v6v7v8tO-1v2v3vKItU-1v2v3v4v5v6v7sMA-1v2v3v4v5v6v7tE-1v2vMAtI-1v2v3v4v5v6v7tO-1v2v3v4v5v6
tU-1v2v3v4sN-MU-MO-1zb2tA-1v2v3v4v5v6v7v8v9tE-1v2v3v4v5v6vKOtI-1v2v3v4v5v6v7vTEtO-1v2v3v4v5tU-1v2v3
sO-1u2u3sRA-1v2v3v4tE-1v2v3v4tI-1v2v3v4v5v6v7tO-1v2v3v4v5v6tU-1v2v3v4v5v6sSA-1v2v3v4v5v6v7v8tE-1v2v3
v4v5tI-1v2v3v4v5v6tO-1v2v3v4v5v6v7tU-1v2v3v4v5v6v7v8sTA-1v2v3v4tE-1v2v3v4v5v6v7v8v9tI-1v2v3v4v5v6v7
tO-1v2v3v4v5v6vRAtU-1v2v3v4vTOsU-1u2u3u4u5sWA-1v2v3v4v5tE-1v2v3v4tI-1v2v3v4v5tO-1v2v3v4v5v6v7sYA-1v2
v3v4v5vYOtO-1v2v3v4v5v6tU-1v2v3v4cRBdMITIAN CONJUGATE MATRIXcXAGRAM FOR ABUNDANCEoFTER COMPLETION
oPPROACHnBEFORE COMPLETIONoITING THROUGHoREAKTHROUGHnCOMING TO MEETpNFLICTqTEMPLATION
nDARKENING OF THE LIGHToECREASEpLIVERANCEpVELOPMENToIFFICULTY AT THE BEGINNINGpSPERSIONoURATION
nENTHUSIASMnFELLOWSHIPoOLLOWINGnGATHERING TOGETHERoRACEpEAT POSSESSIONvWERuREPONDERANCEtTAMING
nHOLDING TOGETHERnINCREASEpFLUENCEpNER TRUTHqOCENCEnLIMITATIONnMODESTYpUTH CORNERSnOBSTRUCTION
oPPOSITIONqRESSIONnPEACEoROGRESSoUSHING UPWARDnRETREATqURNpVOLUTIONnSMALL PREPONDERANCEtTAMING
oPLITTING APARToTANDSTILLnTHE ABYSMAL WATERsRMYtOUSING THUNDERrCAULDRONsLINGING FIREsREATIVE HEAVEN
rFAMILYrGENTLE WINDrJOYOUS LAKErKEEPING STILL MOUNTAINrMARRYING MAIDENrRECEPTIVE EARTHrWANDERERsELL
oREADINGnWAITINGoORK ON THE DECAYEDnYOUTHFUL FOLLYbIBISCUScGH BRIGHTNESS SYMBOLfOCTET PRESET
fVOLTAGE SIGNe-HEELED SHOEfSPEED TRAINq WITH BULLET NOSEcKING BOOTcNDU TEMPLEcPPOPOTAMUS
cRAGANA DIGRAPH YORIjITERATION MARKjLETTER ArRCHAIC WUyYEqBArErIrOrUqDArErIrOrUqEqGArErIrOrUqHArErI
rOrUqIqKArErIrOrUqMArErIrOrUqNrArErIrOrUqOqPArErIrOrUqRArErIrOrUqSArErIrMALL AwEwIwKAxEwOwTUwUwWAxE
xIxOwYAxOxUrOrUqTArErIrOrUqUqVUqWArErIrOqYArOrUqZArErIrOrUjVOICED ITERATION MARKcSTORIC SITEbOCHOcLE
dLOW QUILT SQUARE ORNAMENTzd IN BLACK SQUAREcMOTHETICcNEY POTfBEEcOKcPcRIZONTAL BARmLACK HEXAGON
rOCTAGONlELLIPSISlLINE EXTENSIONlMALE WITH STROKE SIGNlONE EIGHTH BLOCK-1358zd2zd3zd4zd5zd6zd7
lSCAN LINE-1v3v7v9lTAB KEYoULATIONv SETwWITH JUSTIFICATIONmRAFFIC LIGHTdSEf FACEgRACINGcSPITAL
cT BEVERAGEeDOGePEPPEReSPRINGSdELcURGLASSj WITH FLOWING SANDdSEf BUILDINGoSgWITH GARDENbRYVNIA SIGN
bTcJcSbUGGING FACEcNDRED POINTS SYMBOLcSHED FACEcTbYGIEAcPHENg BULLEThWITH DIAERESISg-MINUS
gATION POINTdODIASTOLEcSTERESIS SYMBOLaI LOVE YOU HAND SIGNbCE CREAMfUBEeHOCKEY STICK AND PUCKeSKATE
bDENTICAL TOm AND SLANTED PARALLELkWITH DOT ABOVEgFICATION CARDdOGRAPHIC ANNOTATION BOTTOM MARK
xEARTH MARKxFIRST MARKyOUR MARKzcTH MARKxHEAVEN MARKxLINKING MARKxMAN MARKyIDDLE MARKxONE MARK
xREVERSE MARKxSECOND MARKxTHIRD MARKzREE MARKyOP MARKyWO MARKmCLOSING MARKnOMMAmDEPARTING TONE MARK
oSCRIPTION CHARACTER ABOVE TO BELOWzsMIDDLE AND BELOWzjFULL SURROUNDzjLEFT TO MIDDLE AND RIGHT
zrRIGHTzjOVERLAIDzjSURROUND FROM ABOVEzxBELOWzxLEFTzyOWER LEFTzxUPPER LEFTzzeRIGHT
mENTERING TONE MARKmFULL STOPmHALF FILL SPACEmITERATION MARKmLEVEL TONE MARKmNUMBER ZERO
mRISING TONE MARKmSPACEmTALLY MARK FIVEyOURxONExTHREEyWOnELEGRAPH LINE FEED SEPARATOR SYMBOL
wSYMBOL FOR APRILzjUGUSTziDAY EIGHTzrEENznLEVENzmFIFTEENzoVEznOURzqTEENzmNINEzqTEENzmONEzmSEVEN
zrTEENznIXzpTEENzmTENznHIRTEENzrYzs-ONEzoREEznWELVEzpNTYzs-EIGHTztFIVEzuOURztNINEztONEztSEVENzuIX
ztTHREEzuWOzoOzjECEMBERziFEBRUARYziHOUR EIGHTzsEENzoLEVENznFIFTEENzpVEzoOURzrTEENznNINEzrTEENznONE
znSEVENzsTEENzoIXzqTEENznTENzoHIRTEENzpREEzoWELVEzqNTYzt-FOURzuONEzuTHREEzvWOzpOznZEROziJANUARYzjULY
zkNEziMARCHzkYziNOVEMBERziOCTOBERziSEPTEMBERmVARIATION INDICATORbMAGE OFi OR APPROXIMATELY EQUAL TO
cPdERIAL ARAMAIC LETTER ALEPHzYINyBETHyDALETHyGIMELyHEzbTHyKAPHyLAMEDHyMEMyNUNyPEyQOPHyRESHySADHE
zbMEKHzHINyTAWzETHyWAWyYODHyZAYINrNUMBER ONEzc HUNDREDzdTHOUSANDyTENzc THOUSANDzHREEzWENTYzbO
rSECTION SIGNbNBOX TRAYcCOMING ENVELOPEfPLETE INFINITYdREASE FONT SIZE SYMBOLiS ASfMENTcDdEX
f POINTING AT THE VIEWERdIAN RUPEE SIGNeC SIYAQ ALTERNATE LAKH MARKmFRACTION ONE HALFzQUARTER
vTHREE QUARTERSmLAKH MARKmNUMBER ALTERNATE ONEzeTEN THOUSANDzfWOtEIGHTy HUNDREDzTHOUSANDyYz THOUSAND
tFIFTYy THOUSANDvVEx HUNDREDyTHOUSANDuORTYy THOUSANDvURx HUNDREDyTHOUSANDtKARORyANtLAKHxANtNINE
x HUNDREDyTHOUSANDxTYz THOUSANDtONEw HUNDREDxTHOUSANDtPREFIXED EIGHTzdFIVEzeOURzdNINEzdONEzdSEVEN
zeIXzdTHREEzeWOtSEVENy HUNDREDzTHOUSANDyTYzb THOUSANDuIXw HUNDREDxTHOUSANDwTYy THOUSANDtTEN
w THOUSANDuHIRTYz THOUSANDvREEy HUNDREDzTHOUSANDuWENTYz THOUSANDvOw HUNDREDxTHOUSANDmPLACEHOLDER
mRUPEE MARKcFINITYi NEGATED WITH VERTICAL BARdORMATION DESK PERSONmSEPARATOR FOURwONEwTHREExWOnOURCE
cHIBIT ARABIC FORM SHAPINGiSYMMETRIC SWAPPINGcPUT SYMBOL FOR LATIN CAPITAL LETTERSxLETTERS
xSMALL LETTERSrNUMBERSrSYMBOLScSCRIPTIONAL PAHLAVI LETTER ALEPHzeBETHzeDALETHzeGIMELzeHEzgTHzeKAPH
zeLAMEDHzeMEM-QOPHzeNUNzePEzeSADHEzgMEKHzfHINzeTAWzfETHzeWAW-AYIN-RESHzeYODHzeZAYINwNUMBER FOURzeONE
zh HUNDREDziTHOUSANDzeTENzfHREEzfWENTYzgOqRTHIAN LETTER ALEPHzgYINzfBETHzfDALETHzfGIMELzfHEzhTH
zfKAPHzfLAMEDHzfMEMzfNUNzfPEzfQOPHzfRESHzfSADHEzhMEKHzgHINzfTAWzgETHzfWAWzfYODHzfZAYINxNUMBER FOUR
zfONEzi HUNDREDzjTHOUSANDzfTENzgHREEzgWENTYzhOdERTION SYMBOLcTEGRALi AROUND A POINT OPERATOR
kVERAGE WITH SLASHjEXTENSIONjWITH DOUBLE STROKEoINTERSECTIONoLEFTWARDS ARROW WITH HOOKoOVERBAR
oTIMES SIGNoUNDERBARqIONeRCALATEfIOR PRODUCTfLINEAR ANNOTATION ANCHORxSEPARATORxTERMINATOR
gOCKED FEMALE AND MALE SIGNfROBANGfSECTIONm ABOVE BAR ABOVE UNIONtUNION
nBESIDE AND JOINED WITH INTERSECTIONnWITH DOTsLOGICAL ANDsOVERBARcVERSE BULLETiCHECK MARK
nER BOARD FILLiDOWNWARDS ARROW WITH TIP LEFTWARDSiMEDIUM SHADEiWHITE CIRCLEfTED EXCLAMATION MARK
jINTERROBANGjLAZY SkOW KAVYKAt WITH KAVYKA ABOVEjOHM SIGNjPENTAGRAMjQUESTION MARKjUNDERTIE
dISIBLE PLUSkSEPARATORkTIMESbZAKAYA LANTERNaJACK-O-LANTERNcPANESE BANK SYMBOLjCASTLEjDOLLSjGOBLIN
jINDUSTRIAL STANDARD SYMBOLjOGREjPOST OFFICEjSYMBOL FOR BEGINNERcRcVANESE CONSONANT SIGN CAKRAyKERET
yPENGKALjDIGIT EIGHTpFIVEqOURpNINEpONEpSEVENqIXpTHREEqWOpZEROjLEFT RERENGGANlTTER ArIqBAs MURDAqCA
s MURDAqDAs MAHAPRANArDAt MAHAPRANAqEqGAs MURDAqHAqIr KAWIrIqJAs MAHAPRANAqKAs MURDAtSASAKqLAqMAqNA
s MURDArGAt LELETz RASWADIrYAt MURDAqOqPAs CEREKtMURDAqRAs AGUNGqSAs MAHAPRANAuURDAqTAs MURDArTA
t MAHAPRANAqUqWAqYAjPADA ADEGs ADEGpNDAPoISEN-ISENoLINGSApUHURqNGSIoMADYAoPANGKATpISELEH
oTIRTA TUMETESoWINDUlNGKONnRANGKEPjRIGHT RERENGGANjSIGN CECAKt TELUoLAYARoPANYANGGAoWIGNYAN
jTURNED PADA PISELEHjVOWEL SIGN DIRGA MUREuPEPETuSUKUy MENDUTuTALINGwRUNGvOLONGuWULUy MELIKbEANS
bIGSAW PUZZLE PIECEbOINcYSTICKbUGGLINGcNOcPITERaKAABAcITHI ABBREVIATION SIGNhDANDAiOUBLE DANDA
oSECTION MARKhENUMERATION SIGNhLETTER ApApIpUoBApHAoCApHAoDApDAqDHAqHApHAoEoGApHAoHAoIpIoJApHAoKApHA
oLAoMAoNApGApNApYAoOoPApHAoRApHAoSApHApSAoTApHApTAqHAoUpUoVAoYAhNUMBER SIGNs ABOVEhSECTION MARK
iIGN ANUSVARAmCANDRABINDUmNUKTAmVIRAMAoSARGAhVOWEL SIGN AAtItUsEsItIsOsUtUsVOCALIC RcNGAROO
eXI RADICAL AGAINqNDqRRIVEsOWqXEpBADGERrMBOOqEANqIGrRDrTTERqLACKrOODrUEqOATrDYrLT OF CLOTHrNErW
qRANCHrISTLErUSHpCARTrULDRONrVEqHILDqITYqLANsWrIFFrOTHESqOLORrMPARErRPSErVERrWpDEATHrERqIPPERrSH
sTINGUISHrVINATIONqO NOTrGrORrTsTED CLIFFwTENTrUBLE XrWN BOXqRAGONrUMrYpEARsTHrTqIGHTqMBROIDERY
qNCLOSURErTERqVENtINGqYEpFACErNGrTHERqEATHERqIELDrGHTrRErSHqLUTErYqOOTqRAGRANTrOGqURpGATEqHOSTqO
r SLOWLYrLDqRAINsSSpHAIRrLBERDsF TREE TRUNKrNDqEADsRTrMPqIDING ENCLOSUREqOOKrRNsSEpICEqNCHrSECTpJADE
rRpKNIFEpLACKrMEqEAFsTHERrEKrGSqIDrFErNEqONGt STRIDEpMANqEATrLONqILLETrNISTERqOONrRNINGsTARrUNDtTAIN
sTHpNETqOSErTpOLDqNEsSELFqPEN BOXrPOSEpPIGqLOWqOWERqRIVATErOFOUNDpRAINrPrTqEDqICErGHT OPEN BOXrVER
qOOFqUNpSACRIFICIAL WINErLTrYqCHOLARrRIPTqEALrCONDrErLFqHEEPsLLrOOTsRT TAILED BIRDwHREADqICKNESSrLK
qKINqLASHsVErICEqMALLqNOUTqOUNDqPEARsECHrIRITrOONrROUTqQUAREqTANDrEAMsPrONEsPtPINGqUNqWEETpTABLErLL
rNNED LEATHERqENqIGERrLEqONGUErOTHqRACKrEErIPODqURBANsTLEqWOs HANDSpUSEpVALLEYqILLAGEpWALK
t ENCLOSURErTERqEAPONrSTqHEATrITEqINDsEqOMANrRKqRAPrONGpYELLOWdNADA AI LENGTH MARKiDIGIT EIGHToFIVE
pOURoNINEoONEoSEVENpIXoTHREEpWOoZEROiLENGTH MARKkTTER AqAqIqUpBAqHApCAqHApDAqDArHAqHApEqEpFApGAqHA
pHApIqIpJAqHApKAqHApLAqLArLApMApNArKAARA POLLUqGAqNAqYApOqOpPAqHApRAqRApSAqHAqSApTAqHAqTArHApUqUpVA
qOCALIC LyLxRyRpYAiSIGN ANUSVARAoVAGRAHAnCANDRABINDUnJIHVAMULIYAnNUKTAnSIDDHAMoPACING CANDRABINDU
nUPADHMANIYAnVIRAMApSARGAiVOWEL SIGN AAuIuUtEuEtIuItOuOtUuUtVOCALIC LzdLzcRzdRcTAKANA DIGRAPH KOTO
jITERATION MARKjLETTER ArRCHAIC EyWUyYEzIqBArErIrOrUqDArErIrOrUqEqGArErIrOrUqHArErIrOrUqIqKArErIrOrU
qMArErIsNNAN NASALIZED TONE-1zn2zn3zn4zn5zn7zn8xTONE-2zd3zd4zd5zd7zd8rOrUqNrArErIrOrUqOqPArErIrOrU
qRArErIrOrUqSArErIrMALL AwEwHAxExIxOxUwIwKAxExUwMUwNxUwOwRAxExIxOxUwSIxUwTOxUwUwWAxExIxOwYAxOxUrOrU
qTArErIrOrUqUqVArErIrOrUqWArErIrOqYArOrUqZArErIrOrUjMIDDLE DOTjVOICED ITERATION MARK
i-HIRAGANA DOUBLE HYPHENsPROLONGED SOUND MARKsSEMI-VOICED SOUND MARKsVOICED SOUND MARK
cYAH LI DIGIT EIGHTpFIVEqOURpNINEpONEpSEVENqIXpTHREEqWOpZEROjLETTER AqBAqCAqDAqGAqHArTAqIqKArHAqLA
qMAqNArGArYAqOErOqPArHAqRAqSArHAqTArHAqVAqWAqYAqZAjSIGN CWIoSHYAjTONE CALYAt PLOPHUoPLOPHUjVOWEL EqE
pOpUqEbELVIN SIGNcYdBOARDi AND MOUSEdCAP TENbHAROSHTHI DIGIT FOURrONErTHREEsWOlFRACTION ONE HALF
lLETTER AsBAtHAsCAtHAsDAtDAuHAtHAsGAtHAsHAsJAsKAtHAtKAsLAsMAsNAtNAtYAsPAtHAsRAsSAtHAtSAsTAtHAtTAuHA
uTAvHAsVAtHAsYAsZAlNUMBER ONE HUNDREDwTHOUSANDsTENtWENTYlPUNCTUATION CIRCLEyRESCENT BARxDANDAyOT
zUBLE DANDAxLINESyOTUSxMANGALAMxSMALL CIRCLElSIGN ANUSVARAqBAR ABOVEqCAUDAqDOT BELOWsUBLE RING BELOW
qVISARGAlVIRAMAmOWEL LENGTH MARKrSIGN EwIwOwUwVOCALIC RcITAN SMALL SCRIPT FILLER
cMER CURRENCY SYMBOL RIELgDIGIT EIGHTmFIVEnOURmNINEmONEmSEVENnIXmTHREEnWOmZEROgINDEPENDENT VOWEL LY
zbYyQAAzbIzbQzbUzEzIzbIzOO TYPE ONEziTWOzUzbKzbUzcVyRYzbYgLETTER BAnCAoHApOoOnDAoOnHAnKAoHApOoOnLAoO
nMOnNGOoNOoOoYOnPHApOoOnQAnROnSAoHAoSOnTAoHApOoOoTHAqOnVOnYOgSIGN AHSDAmTTHACANmVAKRAHASANYAlBANTOC
nRIYOOSANnTHAMASATmEYYALlCAMNUC PII KUUHmOENGlKAKABATmHANmOOMUUTlLEK TOOlMUUSIKATOANlNIKAHIT
lPHNAEK MUANlREAHMUKmOBATlSAMYOK SANNYAlTOANDAKHIATmRIISAPlVIRIAMlYUUKALEAPINTUhYMBOL BEI KOETrROC
oUON KOETsROCnDAP KOETrROCq-BEI KOETvROCsUON KOETwROCrMUOY KOETwROCrPII KOETvROCsRAM KOETwROC
nLEK ATTAK BEIyUONxMUOYxPIIyRAMzc-BEIzeUONzdMUOYzdPIIxSONnMUOY KOETsROCnPATHAMASAToII KOETrROC
oRAM KOETsROCr-BEI KOETwROCtUON KOETxROCsMUOY KOETxROCsPII KOETwROCnTUTEYASATgVOWEL INHERENT AAwQ
mSIGN AAsEsIsUrErIsEsIrOEsOrUsAsUrYsAsYcOJKI ABBREVIATION SIGNhDANDAiOUBLE DANDAoSECTION MARK
hLETTER ApApIpUoBApBApHAoCApHAoDApDAqDAqHApHAoEoGApGApHAoHAoIoJApJAoKApHAoLApLAoMAoNApGApNApYAoOoPA
pHAoRAoSAoTApHApTAqHAoUoVAoYAhSECTION MARKiIGN ANUSVARAmNUKTAmSHADDAnUKUNmVIRAMAhVOWEL SIGN AAtItUsE
sItIsOsUhWORD SEPARATORcUDAWADI DIGIT EIGHTqFIVErOURqNINEqONEqSEVENrIXqTHREErWOqZEROkLETTER AsAsIsU
rBAsBAsHArCAsHArDAsDAtDAtHAsHArErGAsGAsHArHArIsIrJAsHAsJArKAsHArLArMArNAsGAsNAsYArOrPAsHArRAsRArSA
sHArTAsHAsTAtHArUsUrVArYAkSIGN ANUSVARApNUKTApVIRAMAkVOWEL SIGN AAwIwUvEvIwIvOvUwUbIMONOcP SIGNcSS
e MARKeING CAT FACE WITH CLOSED EYESiFACEm WITH CLOSED EYESsSMILING EYEScTEcWIFRUITbNEELING PERSON
cOTbOALAcREAN STANDARD SYMBOLbRONOSaL B BAR SYMBOLbAB COATdELcCROSSE STICK AND BALLcDDERdY BEETLE
cNGUAGE TAGcO CANCELLATION MARKeDIGIT EIGHTkFIVElOURkNINEkONEkSEVENlIXkTHREElWOkZEROeELLIPSISeHO MO
hNOeKO LAeLETTER BOlCOlDOlFO FAYpONoSUNGoTAMlHO SUNGoTAMlKHMU GOqNYOnO SUNGpTAMmOlLOn LINGpOOTlMO
lNGOmOmYOlOlPALI BHAqCHAqDDAsHArHAqGHAqJHAqLLAqNNArYAqTTAsHAmHO SUNGpTAMmOlROlSANSKRIT SHAvSAmO SUNG
oTAMlTHO SUNGpTAMmOlWOlYOeNIGGAHITAeSEMIVOWEL SIGN LOtNYOfIGN PALI VIRAMAeTONE MAI CATAWAnEKnTHOoI
eVOWEL SIGN AqAqIqMqYpEqIpIqIpMAI KANuONpOpUqUpYqYcRGE BLUE CIRCLElDIAMONDlSQUAREhROWN CIRCLEmSQUARE
gCIRCLEgDOWN TACKgGREEN CIRCLEmSQUAREgLEFT TRIANGLE OPERATORgONE DOT OVER TWO DOTS PUNCTUATION
kRING OVER TWO RINGS PUNCTUATIONhRANGE CIRCLEnDIAMONDnSQUAREgPURPLE CIRCLEnSQUAREgRED CIRCLEkSQUARE
gTRIPLE VERTICAL BAR OPERATORhWO DOTS OVER ONE DOT PUNCTUATIONkRINGS OVER ONE RING PUNCTUATION
gUP TACKgYELLOW CIRCLEnSQUAREfR THANl OR EQUAL TOdI SIGNcST QUARTER MOONr SYMBOLsWITH FACE
cTIN CAPITAL LETTER Aw WITH ACUTEzdBREVEzi AND ACUTEznDOT BELOWznGRAVEznHOOK ABOVEznTILDEzdCARON
zeIRCUMFLEXzn AND ACUTEzsDOT BELOWzsGRAVEzsHOOK ABOVEzsTILDEzdDIAERESISzm AND MACRONzeOT ABOVE
zm AND MACRONzhBELOWzfUBLE GRAVEzdGRAVEzdHOOK ABOVEzdINVERTED BREVEzdMACRONzdOGONEKzdRING ABOVE
zn AND ACUTEziBELOWzdSTROKEzdTILDEwAwEx WITH ACUTEzeMACRONwFRICAN DwLPHAwNGLICANA WwOwUwV
x WITH HORIZONTAL BARwYvBw WITH DOT ABOVEzhBELOWzdFLOURISHzdHOOKzdLINE BELOWzdSTROKEzdTOPBARwETA
wROKEN LvCw WITH ACUTEzdBARzdCARONzeEDILLAzk AND ACUTEzeIRCUMFLEXzdDOT ABOVEzdHOOKzdPALATAL HOOK
zdSTROKEwHIwLOSED INSULAR GwONwUATRILLOzf WITH COMMAvDw WITH CARONzeEDILLAzeIRCUMFLEX BELOW
zdDOT ABOVEzhBELOWzdHOOKzdLINE BELOWzdSHORT STROKE OVERLAYzeMALL LETTER Zzr WITH CARONzeTROKE
zdTOPBARwZx WITH CARONvEw WITH ACUTEzdBREVEzdCARONzeEDILLAzk AND BREVEzeIRCUMFLEXzn AND ACUTE
zsDOT BELOWzsGRAVEzsHOOK ABOVEzsTILDEzoBELOWzdDIAERESISzeOT ABOVEzhBELOWzfUBLE GRAVEzdGRAVE
zdHOOK ABOVEzdINVERTED BREVEzdMACRONzj AND ACUTEzoGRAVEzdOGONEKzdSTROKEzdTILDEzi BELOW
wGYPTOLOGICAL AINzlLEFwNGwSHwTxHwZHy REVERSEDzWITH CARONvFw WITH DOT ABOVEzdHOOKzdSTROKEvG
w WITH ACUTEzdBREVEzdCARONzeEDILLAzeIRCUMFLEXzdDOT ABOVEzdHOOKzdMACRONzdOBLIQUE STROKEzdSTROKEwAMMA
wHAwLOTTAL AzeIzeSTOPzeUvHw WITH BREVE BELOWzdCARONzeEDILLAzeIRCUMFLEXzdDESCENDERzeIAERESIS
zeOT ABOVEzhBELOWzdHOOKzdSTROKEwALF HwENGwWAIRvIw WITH ACUTEzdBREVEzdCARONzeIRCUMFLEXzdDIAERESIS
zm AND ACUTEzeOT ABOVEzhBELOWzfUBLE GRAVEzdGRAVEzdHOOK ABOVEzdINVERTED BREVEzdMACRONzdOGONEKzdSTROKE
zdTILDEzi BELOWwNSULAR DzeFzeGzeRzeSzeTwOTAwSvJw WITH CIRCUMFLEXzeROSSED-TAILzdSTROKEvKw WITH ACUTE
zdCARONzeEDILLAzdDESCENDERzeIAGONAL STROKEzeOT BELOWzdHOOKzdLINE BELOWzdOBLIQUE STROKEzdSTROKE
zj AND DIAGONAL STROKEvLw WITH ACUTEzdBARzeELTzdCARONzeEDILLAzeIRCUMFLEX BELOWzdDOT BELOW
zm AND MACRONzfUBLE BARzdHIGH STROKEzdLINE BELOWzdMIDDLE DOTzkTILDEzdSMALL LETTER JzeTROKEwJvM
w WITH ACUTEzdDOT ABOVEzhBELOWzdHOOKwIDDLE SCOTS Szc-WELSH LLzjVvNw WITH ACUTEzdCARONzeEDILLA
zeIRCUMFLEX BELOWzdDESCENDERzeOT ABOVEzhBELOWzdGRAVEzdLEFT HOOKzeINE BELOWzeONG RIGHT LEG
zdOBLIQUE STROKEzdSMALL LETTER JzdTILDEwJvOw WITH ACUTEzdBREVEzdCARONzeIRCUMFLEXzn AND ACUTE
zsDOT BELOWzsGRAVEzsHOOK ABOVEzsTILDEzdDIAERESISzm AND MACRONzeOT ABOVEzm AND MACRONzhBELOW
zfUBLE ACUTEzkGRAVEzdGRAVEzdHOOK ABOVEzfRNzh AND ACUTEzmDOT BELOWzmGRAVEzmHOOK ABOVEzmTILDE
zdINVERTED BREVEzdLONG STROKE OVERLAYzfOPzdMACRONzj AND ACUTEzoGRAVEzeIDDLE TILDEzdOGONEK
zj AND MACRONzdSTROKEzj AND ACUTEzdTILDEzi AND ACUTEznDIAERESISznMACRONwIwLD POLISH OwMEGAwOwPEN E
zbOwUvPw WITH ACUTEzdDOT ABOVEzdFLOURISHzdHOOKzdSQUIRREL TAILzeTROKEzj THROUGH DESCENDERvQ
w WITH DIAGONAL STROKEzdSTROKE THROUGH DESCENDERvRw ROTUNDAxWITH ACUTEzdCARONzeEDILLAzdDOT ABOVE
zhBELOWzm AND MACRONzfUBLE GRAVEzdINVERTED BREVEzdLINE BELOWzdOBLIQUE STROKEzdSTROKEzdTAIL
wEVERSED C WITH DOTzfEzfHALF HzfOPEN EwUM ROTUNDAvSw WITH ACUTEzi AND DOT ABOVEzdCARON
zi AND DOT ABOVEzeEDILLAzeIRCUMFLEXzeOMMA BELOWzdDOT ABOVEzhBELOWzm AND DOT ABOVEzdHOOK
zdOBLIQUE STROKEzdSHORT STROKE OVERLAYzeWASH TAILwALTILLOwCHWAxRIPT GwHARP SwIGMOID SwMALL CAPITAL I
zcQ WITH HOOK TAILvTw WITH CARONzeEDILLAzeIRCUMFLEX BELOWzeOMMA BELOWzdDIAGONAL STROKEzeOT ABOVE
zhBELOWzdHOOKzdLINE BELOWzdRETROFLEX HOOKzdSTROKEwHORNzb WITH STROKEzn THROUGH DESCENDERwONE FIVE
zbSIXzbTWOwRESILLOwURNED AzeLPHAzdHzdINSULAR GzdKzdLzdMzdTzdVwZvUw BARxWITH ACUTEzdBREVEzdCARON
zeIRCUMFLEXzn BELOWzdDIAERESISzm AND ACUTEzrCARONzrGRAVEzrMACRONznBELOWzeOT BELOWzfUBLE ACUTEzkGRAVE
zdGRAVEzdHOOK ABOVEzfRNzh AND ACUTEzmDOT BELOWzmGRAVEzmHOOK ABOVEzmTILDEzdINVERTED BREVEzdMACRON
zj AND DIAERESISzdOGONEKzdRING ABOVEzdSTROKEzdTILDEzi AND ACUTEzjBELOWwPSILONvV
w WITH DIAGONAL STROKEzeOT BELOWzdHOOKzdTILDEwENDwISIGOTHIC ZwOLAPUK AEzeOEzeUEwYvWw WITH ACUTE
zdCIRCUMFLEXzdDIAERESISzeOT ABOVEzhBELOWzdGRAVEzdHOOKwYNNvXw WITH DIAERESISzeOT ABOVEvYw WITH ACUTE
zdCIRCUMFLEXzdDIAERESISzeOT ABOVEzhBELOWzdGRAVEzdHOOKzh ABOVEzdLOOPzdMACRONzdSTROKEzdTILDEwOGHvZ
w WITH ACUTEzdCARONzeIRCUMFLEXzdDESCENDERzeOT ABOVEzhBELOWzdHOOKzdLINE BELOWzdPALATAL HOOKzdSTROKE
zeWASH TAILpIGATURE IJxOEhROSSgEPIGRAPHIC LETTER ARCHAIC MyI LONGAzNVERTED MyREVERSED FziP
ySIDEWAYS IgLETTER AINoLVEOLAR CLICKnBIDENTAL PERCUSSIVEpLABIAL CLICKwPERCUSSIVEnDENTAL CLICK
nGLOTTAL STOPz WITH STROKEnINVERTED GLOTTAL STOPzj WITH CURLzpSTROKEnLATERAL CLICK
nPHARYNGEAL VOICED FRICATIVEnRETROFLEX CLICKzd WITH RETROFLEX HOOKpVERSED ESH LOOP
wGLOTTAL STOP WITH STROKEnSINOLOGICAL DOToMALL CAPITAL AzdEzcBzdARRED BzcCzcDzcEzdTHzdZHzcFzcG
zd WITH HOOKzcHzcIzdNVERTED RzcJzcKzcLzd WITH BELTzjSTROKEzcMzcNzcOzdEzdPEN OzdUzcPzcQzcR
zd WITH RIGHT LEGzdEVERSED NzlRzdUMzcSzcTzdURNED EzjGzjKzjMzjRzcUzcVzcWzcYzcZoTRETCHED Cy WITH CURL
nTWO WITH STROKEnVOICED LARYNGEAL SPIRANTnWYNNnYRgSMALL CAPITAL LETTER I WITH STROKEzcU WITH STROKE
mLETTER Au REVERSED-SCHWAvWITH ACUTEzbBREVEzg AND ACUTEzlDOT BELOWzlGRAVEzlHOOK ABOVEzlTILDEzbCARON
zcIRCUMFLEXzl AND ACUTEzqDOT BELOWzqGRAVEzqHOOK ABOVEzqTILDEzbDIAERESISzk AND MACRONzcOT ABOVE
zk AND MACRONzfBELOWzdUBLE GRAVEzbGRAVEzbHOOK ABOVEzbINVERTED BREVEzbMACRONzbOGONEKzbRETROFLEX HOOK
zcIGHT HALF RINGzdNG ABOVEzl AND ACUTEzgBELOWzbSTROKEzbTILDEuAuEv WITH ACUTEzcMACRONuLPHA
y WITH RETROFLEX HOOKuNGLICANA WuOuUuVv WITH HORIZONTAL BARuYtBu WITH DOT ABOVEzfBELOWzbFLOURISH
zbHOOKzbLINE BELOWzbMIDDLE TILDEzbPALATAL HOOKzbSTROKEzbTOPBARuARRED ALPHAzbEzbOvSELINE ESHuETA
uLACKLETTER EzgOzh WITH STROKEuOTTOM HALF OuROKEN LtCu WITH ACUTEzbBARzbCARONzcEDILLAzi AND ACUTE
zcIRCUMFLEXzcURLzbDOT ABOVEzbHOOKzbPALATAL HOOKzbRETROFLEX HOOKzbSTROKEuHIw WITH LOW LEFT SERIF
zhRIGHT RINGuLOSED INSULAR GzbOMEGAzcPEN EzbREVERSED OPEN EuONuUATRILLOzd WITH COMMAtDu WITH CARON
zcEDILLAzcIRCUMFLEX BELOWzcURLzbDOT ABOVEzfBELOWzbHOOKzf AND TAILzbLINE BELOWzbMIDDLE TILDE
zbPALATAL HOOKzbSHORT STROKE OVERLAYzcTROKEzbTAILzcOPBARuB DIGRAPHuELTAvZH DIGRAPH
zg WITH PALATAL HOOKzmRETROFLEX HOOKuOTLESS IzcJzd WITH STROKEzp AND HOOKvUBLE Rzc WITH CROSSED-TAIL
zbTHORNzbWYNNuUMuZv DIGRAPHze WITH CURLzkRETROFLEX HOOKwWITH CARONtEu WITH ACUTEzbBREVEzbCARON
zcEDILLAzi AND BREVEzcIRCUMFLEXzl AND ACUTEzqDOT BELOWzqGRAVEzqHOOK ABOVEzqTILDEzmBELOWzbDIAERESIS
zcOT ABOVEzfBELOWzdUBLE GRAVEzbFLOURISHzbGRAVEzbHOOK ABOVEzbINVERTED BREVEzbMACRONzh AND ACUTE
zmGRAVEzbNOTCHzbOGONEKzbRETROFLEX HOOKzbSTROKEzbTILDEzg BELOWuGYPTOLOGICAL AINzjLEFuNG
w WITH CROSSED-TAILzdPALATAL HOOKuSHw WITH CURLzdDOUBLE BARzn AND CURLzdPALATAL HOOKzdRETROFLEX HOOK
uTvHuZHw REVERSEDxWITH CARONzeURLzdPALATAL HOOKzdRETROFLEX HOOKzdTAILtFu WITH DOT ABOVEzbHOOK
zbMIDDLE TILDEzbPALATAL HOOKzbSTROKEuENG DIGRAPHzg WITH TRILLtGu WITH ACUTEzbBREVEzbCARONzcEDILLA
zcIRCUMFLEXzbDOT ABOVEzbHOOKzbMACRONzbOBLIQUE STROKEzbPALATAL HOOKzbSTROKEuAMMAuHAuLOTTAL AzcIzcSTOP
zcUtHu WITH BREVE BELOWzbCARONzcEDILLAzcIRCUMFLEXzbDESCENDERzcIAERESISzcOT ABOVEzfBELOWzbHOOK
zbLINE BELOWzbPALATAL HOOKzbSTROKEuALF HuENGx WITH HOOKuVtIu WITH ACUTEzbBREVEzbCARONzcIRCUMFLEX
zbDIAERESISzk AND ACUTEzcOT BELOWzdUBLE GRAVEzbGRAVEzbHOOK ABOVEzbINVERTED BREVEzbMACRONzbOGONEK
zbRETROFLEX HOOKzbSTROKEzh AND RETROFLEX HOOKzbTILDEzg BELOWuNSULAR DzcFzcGzcRzcSzcTvVERTED ALPHA
zdOEuOTAx WITH STROKEwIFIED EuStJu WITH CARONzcIRCUMFLEXzcROSSED-TAILzbSTROKEtKu WITH ACUTEzbCARON
zcEDILLAzbDESCENDERzcIAGONAL STROKEzcOT BELOWzbHOOKzbLINE BELOWzbOBLIQUE STROKEzbPALATAL HOOK
zbSTROKEzh AND DIAGONAL STROKEuRAtLu WITH ACUTEzbBARzcELTzf AND PALATAL HOOKzbCARONzcEDILLA
zcIRCUMFLEX BELOWzcURLzbDOT BELOWzk AND MACRONzdUBLE BARziMIDDLE TILDEzbFISHHOOKzbHIGH STROKE
zbINVERTED LAZY SzbLINE BELOWzbMIDDLE DOTziRINGziTILDEzbPALATAL HOOKzbRETROFLEX HOOKzp AND BELT
zbSTROKEuAMBDA WITH STROKEuENIS FvZHx WITH RETROFLEX HOOKuJuONG Sz WITH DIAGONAL STROKEzhOT ABOVE
zgHIGH STROKEuS DIGRAPHuUMuZ DIGRAPHtMu WITH ACUTEzbCROSSED-TAILzbDOT ABOVEzfBELOWzbHOOK
zbMIDDLE TILDEzbPALATAL HOOKuIDDLE SCOTS Sz-WELSH LLzhVuUMtNu PRECEDED BY APOSTROPHEvWITH ACUTE
zbCARONzcEDILLAzcIRCUMFLEX BELOWzcROSSED-TAILzcURLzbDESCENDERzcOT ABOVEzfBELOWzbGRAVEzbLEFT HOOK
zcINE BELOWzcONG RIGHT LEGzbMIDDLE TILDEzbOBLIQUE STROKEzbPALATAL HOOKzbRETROFLEX HOOKzbTILDEuJuUMtO
u WITH ACUTEzbBREVEzbCARONzcIRCUMFLEXzl AND ACUTEzqDOT BELOWzqGRAVEzqHOOK ABOVEzqTILDEzbDIAERESIS
zk AND MACRONzcOT ABOVEzk AND MACRONzfBELOWzdUBLE ACUTEziGRAVEzbGRAVEzbHOOK ABOVEzdRNzf AND ACUTE
zkDOT BELOWzkGRAVEzkHOOK ABOVEzkTILDEzbINVERTED BREVEzbLONG STROKE OVERLAYzdOPzdW RING INSIDE
zbMACRONzh AND ACUTEzmGRAVEzbOGONEKzh AND MACRONzbRETROFLEX HOOKzbSTROKEzh AND ACUTEzbTILDE
zg AND ACUTEzlDIAERESISzlMACRONuIuLD POLISH OuMEGAuOuPEN Ez WITH RETROFLEX HOOKyO
z WITH RETROFLEX HOOKzgSTROKEzEuUtPu WITH ACUTEzbDOT ABOVEzbFLOURISHzbHOOKzbMIDDLE TILDE
zbPALATAL HOOKzbSQUIRREL TAILzcTROKEzh THROUGH DESCENDERuHItQu WITH DIAGONAL STROKEzbHOOKzf TAIL
zbSTROKE THROUGH DESCENDERuP DIGRAPHtRu ROTUNDAvWITH ACUTEzbCARONzcEDILLAzcROSSED-TAILzbDOT ABOVE
zfBELOWzk AND MACRONzdUBLE GRAVEzbFISHHOOKzj AND MIDDLE TILDEzoPALATAL HOOKzbINVERTED BREVE
zbLINE BELOWzcONG LEGzbMIDDLE TILDEzbOBLIQUE STROKEzbPALATAL HOOKzbSTROKEzbTAILzOUT HANDLEuAMS HORN
uEVERSED Cze WITH DOTzdEzeNGzdHALF HzdKzdOPEN Ezj WITH HOOKzpRETROFLEX HOOKzdR WITH FISHHOOK
zdSCRIPT GuUMw ROTUNDAtSu WITH ACUTEzg AND DOT ABOVEzbCARONzg AND DOT ABOVEzcEDILLAzcIRCUMFLEX
zcOMMA BELOWzcURLzbDOT ABOVEzfBELOWzk AND DOT ABOVEzbHOOKzbMIDDLE TILDEzbOBLIQUE STROKE
zbPALATAL HOOKzbSHORT STROKE OVERLAYzcWASH TAILuAKHA YATvLTILLOuCHWAy WITH HOOKzfRETROFLEX HOOK
vRIPT Gzc WITH CROSSED-TAILzbRzc WITH RINGuHARP SuIDEWAYS DIAERESIZED UzdOze WITH STROKEzePEN O
zdTURNED MzdUvGMOID SuQUAT REVERSED ESHuTIRRUP RtTu WITH CARONzcEDILLAzcIRCUMFLEX BELOWzcOMMA BELOW
zcURLzbDIAERESISzeGONAL STROKEzcOT ABOVEzfBELOWzbHOOKzf AND RETROFLEX HOOKzbLINE BELOWzbMIDDLE TILDE
zbPALATAL HOOKzbRETROFLEX HOOKzbSTROKEuAILLESS PHIuC DIGRAPH WITH CURLuESH DIGRAPH
zg WITH PALATAL HOOKzmRETROFLEX HOOKuH WITH STRIKETHROUGHvORNy WITH STROKEzl THROUGH DESCENDER
uONE FIVEySIXyTWOvP HALF OuRESILLOuS DIGRAPHze WITH RETROFLEX HOOKuUMvRNED AzcEzcLPHAzbDELTAzbEzbG
zbHzc WITH FISHHOOKzq AND TAILzbIzcNSULAR GzbKzbLzbMzc WITH LONG LEGzbO OPEN-Ozj WITH STROKEzcE
zd WITH HORIZONTAL STROKEzjSTROKEzcPEN EzbRzc WITH HOOKziLONG LEGzq AND RETROFLEX HOOKziMIDDLE TILDE
ziPALATAL HOOKziTAILzbTzc WITH CURLzbUIzbVzbWzbYzc WITH BELTuZtUu BARy WITH SHORT RIGHT LEG
vWITH ACUTEzbBREVEzbCARONzcIRCUMFLEXzl BELOWzbDIAERESISzk AND ACUTEzpCARONzpGRAVEzpMACRONzlBELOW
zcOT BELOWzdUBLE ACUTEziGRAVEzbGRAVEzbHOOK ABOVEzdRNzf AND ACUTEzkDOT BELOWzkGRAVEzkHOOK ABOVE
zkTILDEzbINVERTED BREVEzbLEFT HOOKzbMACRONzh AND DIAERESISzbOGONEKzbRETROFLEX HOOKzcING ABOVE
zbSHORT RIGHT LEGzcTROKEzbTILDEzg AND ACUTEzhBELOWuEuIuMuOuPSILONzb WITH STROKEtVu WITH CURL
zbDIAGONAL STROKEzcOT BELOWzbHOOKzbPALATAL HOOKzbRIGHT HOOKzbTILDEuENDuISIGOTHIC ZuOLAPUK AEzcOEzcUE
uYtWu WITH ACUTEzbCIRCUMFLEXzbDIAERESISzcOT ABOVEzfBELOWzbGRAVEzbHOOKzbRING ABOVEtXu WITH DIAERESIS
zcOT ABOVEzbLONG LEFT LEGzo AND LOW RIGHT RINGzpWITH SERIFzdW RIGHT RINGzbPALATAL HOOKtYu WITH ACUTE
zbCIRCUMFLEXzbDIAERESISzcOT ABOVEzfBELOWzbGRAVEzbHOOKzf ABOVEzbLOOPzbMACRONzbRING ABOVE
zbSHORT RIGHT LEGzcTROKEzbTILDEuOGHtZu WITH ACUTEzbCARONzcIRCUMFLEXzcURLzbDESCENDERzcOT ABOVEzfBELOW
zbHOOKzbLINE BELOWzbMIDDLE TILDEzbPALATAL HOOKzbRETROFLEX HOOKzbSTROKEzcWASH TAILnIGATURE FFxIxLwIwL
vIJvLONG S TvOEvSThUBSCRIPT SMALL LETTER AzeEzeHzeIzeJzeKzeLzeMzeNzeOzePzeRzeSzfCHWAzeTzeUzeVzeX
bEAF FLUTTERING IN WINDeY GREENcDGERcFT AND LOWER AND RIGHT TRIANGULAR THREE QUARTERS BLOCK
pONE EIGHTH BLOCKjRIGHT DOUBLE TURNSTILEpTACKqRIANGULAR HALF BLOCK
jUPPER AND RIGHT TRIANGULAR THREE QUARTERS BLOCKpONE EIGHTH BLOCKhGER BUBBLEiLE BRACKETs WITH DOT
gRC LESS-THAN BRACKEThROW WITH CIRCLED PLUSqSMALL CIRCLEfBARB DOWN RIGHT BARB DOWN HARPOON
zbUP HARPOONkUP RIGHT BARB DOWN HARPOONyUP HARPOONgLACK LENTICULAR BRACKETlTORTOISE SHELL BRACKET
fCEILINGgLOSED ENTRYgORNER BRACKETgURLY BRACKETs LOWER HOOKtMIDDLE PIECEtUPPER HOOK
fDOTTED SUBSTITUTION BRACKEThUBLE ANGLE BRACKETmPARENTHESISmQUOTATION MARKmWIGGLY FENCEfFISH TAIL
hVE EIGHTHS BLOCKgLOORfHALF BLACK CIRCLEqSTARmOCKkCIRCLEq WITH DOTwFOUR DOTSwTHREE DOTSxWO DOTS
kFOLDERkINVERSE MEDIUM SHADE AND RIGHT HALF BLOCKkMEDIUM SHADEkRUNNING MANhND TELEPHONE RECEIVER
fLOW PARAPHRASE BRACKETgUGGAGEfMULTIMAPfNORMAL FACTOR SEMIDIRECT PRODUCTfONE EIGHTH BLOCK
jQUARTER BLOCKgUTER JOINfPARENTHESISq EXTENSIONrLOWER HOOKrUPPER HOOKfRAISED OMISSION BRACKET
gIGHT ARROWq THROUGH SMALL CIRCLErWITH DOUBLE VERTICAL STROKEwSTROKEwVERTICAL STROKElBLACK ARROW
lDOUBLE ARROWx WITH STROKEzeVERTICAL STROKElOPEN-HEADED ARROWlSANS-SERIF ARROWlTRIANGLE-HEADED ARROW
lWAVE ARROWmHITE ARROWfS-SHAPED BAG DELIMITERgEMIDIRECT PRODUCThVEN EIGHTHS BLOCKgIDEWAYS U BRACKET
hNGLE QUOTATION MARKgPEECH BUBBLEgQUARE BRACKETt EXTENSIONuLOWER CORNERuUPPER CORNER
uWITH DOUBLE STROKEzQUILLzSTROKEzTICK IN BOTTOM CORNERziTOP CORNERzUNDERBARgUBSTITUTION BRACKETfTACK
gHIRD WHITE RIGHT POINTING INDEXhOUGHT BUBBLEhREE EIGHTHS BLOCKlQUARTERS BLOCKgORTOISE SHELL BRACKET
gRANSPOSITION BRACKEThIANGLE BESIDE VERTICAL BARlULAR ONE QUARTER BLOCKfVERTICAL BAR WITH QUILL
pOX LINEfWHITE CORNER BRACKETmURLY BRACKETlLENTICULAR BRACKETlPARENTHESISlSQUARE BRACKET
lTORTOISE SHELL BRACKETgIGGLY FENCEgRITING HANDe-FACING ARMENIAN ETERNITY SIGNmFISTmSVASTI SIGN
x WITH DOTSfHANDED INTERLACED PENTAGRAMfPOINTING ANGLE BRACKEToCURVED ANGLE BRACKET
oDOUBLE ANGLE QUOTATION MARKoMAGNIFYING GLASSfSHADED WHITE RIGHTWARDS ARROW
gIDE ARC ANTICLOCKWISE ARROWfTO-RIGHT EMBEDDINGoISOLATEoMARKoOVERRIDEeWARDS ARROW
p ABOVE ALMOST EQUAL TOwREVERSE ALMOST EQUAL TOzfTILDE OPERATORwSHORT RIGHTWARDS ARROW
wTILDE OPERATORrND UPPER AND LOWER ONE EIGHTH BLOCKqFROM BARy TO BLACK DIAMONDqOVER RIGHTWARDS ARROW
qTHROUGH LESS-THANySUBSETyXrO BARw OVER RIGHTWARDS ARROW TO BARuLACK DIAMONDqWITH DOTTED STEM
xUBLE VERTICAL STROKEvEQUILATERAL ARROWHEADvHOOKvLARGE TRIANGLE ARROWHEADwOOP
vMEDIUM TRIANGLE ARROWHEADvNOTCHED TAILvPLUS BELOWvSMALL EQUILATERAL ARROWHEADzcTRIANGLE ARROWHEAD
wTROKEvTAILz WITH DOUBLE VERTICAL STROKEzgVERTICAL STROKEwIP DOWNWARDSzUPWARDSvVERTICAL STROKEp-TAIL
kBACK-TILTED SHADOWED WHITE ARROWlLACK ARROWqCIRCLED WHITE ARROWlOTTOM-SHADED WHITE ARROW
kCOMPRESSED ARROWkDASHED ARROWlOUBLE ARROWw FROM BARxWITH STROKEzdVERTICAL STROKEw-TAILrDASH ARROW
kFINGER-POST ARROWlRONT-TILTED SHADOWED WHITE ARROWkHANDmRPOON OVER RIGHTWARDS HARPOON
sWITH BARB DOWN ABOVE RIGHTWARDS HARPOON WITH BARB DOWNziBELOW LONG DASHziFROM BARziTO BARzhWARDS
zdUP ABOVE LEFTWARDS HARPOON WITH BARB DOWNznONG DASHzmRIGHTWARDS HARPOON WITH BARB UPzgFROM BAR
zgTO BARzfWARDSlEAVY ARROWqCOMPRESSED ARROWkLEFT-SHADED WHITE ARROWkOPEN-HEADED ARROWkPAIRED ARROWS
kQUADRUPLE ARROWkRIGHT-SHADED WHITE ARROWlOCKETkSANS-SERIF ARROWlQUARED ARROWnIGGLE ARROW
kTOP SHADED WHITE ARROWlRIANGLE ARROWHEADs-HEADED ARROWzg OVER RIGHTWARDS TRIANGLE-HEADED ARROW
zhTO BARzhWITH BOLD SHAFTzmDOUBLE HORIZONTAL STROKEztVERTICAL STROKEzmHEAVY SHAFT
zmLONG TIP DOWNWARDSzvUPWARDSzmMEDIUM SHAFTzmNARROW SHAFTzmVERY HEAVY SHAFTzbDASHED ARROW
zbPAIRED ARROWSnPLE ARROWrDASH ARROWlWO HEADED ARROWn-HEADED ARROW FROM BAR
zcWITH DOUBLE VERTICAL STROKEzhTAILzl WITH DOUBLE VERTICAL STROKEzrVERTICAL STROKE
ziRIANGLE ARROWHEADSzhVERTICAL STROKEvTRIPLE DASH ARROWkWAVE ARROWlHITE ARROW
v WITHIN TRIANGLE ARROWHEADcGcMONcOdPARDcPCHA CONSONANT SIGN KxANGwLwMwNxYIN-DOwPwRwThDIGIT EIGHT
nFIVEoOURnNINEnONEnSEVENoIXnTHREEoWOnZEROhLETTER AoBApLAoCApHAoDApDApZAoFApLAoGApLAoHApLAoJAoKApHA
pLAoLAoMApLAoNApGApYAoPApHApLAoRAoSApHAoTApHApSAqHApTAqHAoVAoWAoYAhPUNCTUATION CER-WA
tNYET THYOOM TA-ROLtTA-ROLuSHOOKz CER-WAhSIGN NUKTAmRANiUBJOINED LETTER RAyYAhVOWEL SIGN AAsEsIsOtO
sUtUcSS-THAN ABOVE DOUBLE-LINE EQUAL ABOVE GREATER-THANqGREATER-THAN ABOVE DOUBLE-LINE EQUAL
qLEFTWARDS ARROWqSIMILAR ABOVE GREATER-THANyOR EQUAL
rLANTED EQUAL ABOVE GREATER-THAN ABOVE SLANTED EQUALlND NOT APPROXIMATEoSINGLE-LINE NOT EQUAL TO
kBUT NOT EQUAL TOvIVALENT TOkCLOSED BY CURVEz ABOVE SLANTED EQUALkEQUAL TO OR GREATER-THAN
kOR APPROXIMATEnEQUAL TOqIVALENT TOnGREATER-THANnSLANTED EQUAL TOze WITH DOT ABOVEzt RIGHTzoINSIDE
lVER EQUAL TOkSIGNkWITH CIRCLE INSIDEpDOTpQUESTION MARK ABOVEcVEL SLIDERbFbIBRA
cGATURE OPEN ET ORNAMENTdHT CHECK MARKgEIGHT SPOKED ASTERISKgFIVE POINTED BLACK STARlSPOKED ASTERISK
hOUR POINTED BLACK CUSPzSTARgGREEK CROSSgLEFT TORTOISE SHELL BRACKET ORNAMENTgRAIL
hIGHT TORTOISE SHELL BRACKET ORNAMENTgSALTIREhHADEhIX SPOKED ASTERISKgTHREE POINTED BLACK STAR
hWELVE POINTED BLACK STARgVERTICAL BARgWHITE SQUAREfNINGj MOODo BUBBLEcMBU DIGIT EIGHTmFIVEnOURmNINE
mONEmSEVENnIXmTHREEnWOmZEROgEXCLAMATION MARKgLETTER BAoHAnCAoHAnDAoHAnGAoHAoYANnHAnJAoHAnKAoHAnLAnMA
nNAoGAnPAoHAnRAnSAoHAoSAnTAoHAoRAnWAnYApNgQUESTION MARKgSIGN KEMPHRENGlLOOlMUKPHRENGlSA-I
hMALL LETTER ANUSVARAtKAtLAtMAtNAuGAtPAtRAtTAhUBJOINED LETTER RAxWAxYAgVOWEL SIGN AsIsUrEsErIrOsOrU
l-CARRIER LETTERdITED LIABILITY SIGNcNE FEEDfINTEGRATION NOT INCLUDING THE POLE
rWITH RECTANGULAR PATH AROUND POLEwSEMICIRCULAR PATH AROUND POLEfSEPARATORfTABULATIONp SET
eAR A SIGN A028Bp100-102q20Bq31Cp301r2r3r4r5r6r7r8r9AsBsCq10r1r2r3AsBsCr4r5r6r7r8r9q20r1r2r3r4r5r6r7
r8r9q30r1r2r3r4r5r6r7r8r9q40r1r2r3r4r5r6r7r8r9q50r1r2r3r4r5r6r7r8r9q60r1r2r3r4r5r6r7r8r9q70r1
p400-VASr1-VASr2-VASr3-VASr4-VASr5-VASr6-VASr7-VASr8-VASr9-VASq10-VASr1-VASr2-VASr3-VASr4-VASr5-VAS
r6-VASr7-VASr8-VASp501r2r3r4r5r6r8r9q10r1r2r3r5r6q20r1r3r4r5r6r7r8r9q30r1r2r4r5r6r7r8r9q40r1r2r5r7r8
r9q50r1r2r3r4r5r6r7r9q63r4r5r6r8r9q70r1r2r3r4r5r6r7r8r9q80r1r2r3r4r5r6r7r8r9q91r2r4r5r6r8p600r1r2r3
r4r6r8r9q10r1r2r3r4r5r6r7r8r9q20r1r2r3r4r6r7r8r9q34r7r8q40r2r3r4r5r6r8r9q51r2r3r4r5r6r7r8r9q60r1r2r3
r4p701 Ar2 Br3 Dr4 Er5 Fr6 Hr7 Jr8 Kr9 Ls-2 L2t3 L3t4 L4t6 L6q10 Wr1 Xr2 Yr3 OMEGAr4 ABBr5 BBr7 DD
q26 EYYYq32 JEp800r1r2r3r4r5r6r7pB001s2s3s4s5s6s7s8s9r10s1s3s6s7r20s1tFtMs2tFtMs3tMs4s6s7s8s9r30s1s4
s7s8s9r40s1s4s5s6s7s8s9r50s1s3s4s5s6s7s8s9r60s1s5s6s7s9r70s3s4s6s7s8s9r80s1s2s5s6s7q118r20s2s3r31AtB
r64r71r80s8r91hB IDEOGRAM B100 MANv2 WOMANv4 DEERv5 EQUIDwF MAREwM STALLIONv6F EWEwM RAMv7F SHE-GOAT
wM HE-GOATv8F SOWwM BOARv9F COWwM BULLu20 WHEATv1 BARLEYv2 OLIVEv3 SPICEv5 CYPERUSu30 OILv1 WINEv2
u40 BRONZEv1 GOLDv2v5 WOOLv6u50v1 HORNv2v3v4v7v8v9 CLOTHu60v1v2 GARMENTv3 ARMOURv4v5v6v7v8v9u70v1v2
v3 MONTHv4v6 TREEv7v8v9u80v1v2v3v4v5v9u90v1 HELMETt220 FOOTSTOOLv5 BATHTUBu30 SPEARv1 ARROWv2
v3 SWORDv4v6u40 WHEELED CHARIOTv1 CHARIOTv2 CHARIOT FRAMEv3 WHEELv5v6v8v9u51v2v3v4 DARTv5v6v7v8v9
sVESSEL B155zb200zd1zd2zd3zd4zd5zd6zd7zd8zd9zc10zd1zd2zd3zd4zd5zd6zd7zd8zd9zc21zd2zd6zd7zd8zd9zc50
zb305jMONOGRAM B127 KAPOv8 KANAKOu33 AREPAv5 MERIu56 TURO2t247 DIPTEjSYLLABLE B001 DAv2 ROv3 PAv4 TE
v5 TOv6 NAv7 DIv8 Av9 SEu10 Uv1 POv2 SOv3 MEv4 DOv5 MOv6 QAv7 ZAu20 ZOv1 QIv3 MUv4 NEv5 A2v6 RUv7 RE
v8 Iv9 PU2u30 NIv1 SAv2 QOv3 RA3v6 JOv7 TIv8 Ev9 PIu40 WIv1 SIv2 WOv3 A3v4 KEv5 DEv6 JEv8 NWAu50 PU
v1 DUv2 NOv3 RIv4 WAv5 NUv7 JAv8 SUv9 TAu60 RAv1 Ov2 PTEv5 JUv6 TA2v7 KIv8 RO2v9 TUu70 KOv1 DWEv2 PE
v3 MIv4 ZEv5 WEv6 RA2v7 KAv8 QEu80 MAv1 KUv5 AUv7 TWEu90 DWOv1 TWOlMBOL B018t9s22s34s47t9s56s63t4s79
s82t3t6t9dK SYMBOLeED PAPERCLIPScON FACEcPSeTICKcRA SIGNcSU LETTER AnEmBAmCAnHAmDAnZAmEnUmFAmGAnHA
mHAnHAmImJAmKAnHAmLAmMAmNAnGAmOnEmPAnHAmSAnHAmTAnHAnONE MYA BOvCYAvJEUvNAvTIrNA POnSAoHAmUnEnHmWAmXA
mYAnHAmZAnHAfPUNCTUATION COMMArFULL STOPcVRE TOURNOIS SIGNcZARDbLAMAbOBSTERcCKe WITH INK PEN
eING-SHIFT ONEoZEROcGICAL ANDl WITH DOT ABOVEtUBLE OVERBARyUNDERBARrHORIZONTAL DASHrMIDDLE STEM
rUNDERBARiORk OVERLAPPING LOGICAL ANDlWITH DOT ABOVEsUBLE OVERBARxUNDERBARqHORIZONTAL DASH
qMIDDLE STEMcLLIPOPcNG DASH FROM LEFT MEMBER OF DOUBLE VERTICALgIVISIONgRUMfLEFT RIGHT ARROW
qDOUBLE ARROWkTACKjWARDS ARROWu FROM BARpDOUBLE ARROWzc FROM BARpSQUIGGLE ARROWfRIGHT TACK
kWARDS ARROWv FROM BARqDOUBLE ARROWzd FROM BARqSQUIGGLE ARROWcTION BOTTLEdUScUDLY CRYING FACE
cVE HOTELfLETTERcW ASTERISKeBATTERYfRIGHTNESS SYMBOLeDOUBLE PRIME QUOTATION MARKeKAVYKAk WITH DOT
eLINEdER BLADE SCISSORSgFIVE EIGHTHS BLOCKgHALF BLOCKlCIRCLElINVERSE WHITE CIRCLElMEDIUM SHADE
gLEFT BALLPOINT PENmLOCK DIAGONAL LOWER MIDDLE LEFT TO LOWER CENTREzzdRIGHT
zbUPPER CENTRE TO LOWER MIDDLE RIGHTzxRIGHTzrUPPER MIDDLE RIGHTzhLEFT TO LOWER CENTREzvMIDDLE RIGHT
zpUPPER MIDDLE RIGHTzhMIDDLE LEFT TO LOWER CENTREzzdMIDDLE RIGHTzzdRIGHTlCRAYONlFOUNTAIN PEN
lPAINTBRUSHmENCILlQUADRANT CIRCULAR ARClSEMICIRCULAR ANTICLOCKWISE ARROWlTRIANGLErULAR MEDIUM SHADE
gONE EIGHTH BLOCKkQUARTER BLOCKgRIGHT BLOCK DIAGONAL LOWER CENTRE TO LOWER MIDDLE RIGHT
zsUPPER MIDDLE RIGHTzyRIGHTziLEFT TO LOWER MIDDLE RIGHTzqUPPER CENTREzwMIDDLE RIGHT
ziMIDDLE LEFT TO UPPER CENTREzzeMIDDLE RIGHTzzeRIGHTzcUPPER MIDDLE LEFT TO UPPER CENTREzzeRIGHT
mCORNER WITH DOTmDROP-SHADOWED WHITE SQUAREmPENCILmQUADRANT CIRCULAR ARC
mSEMICIRCULAR CLOCKWISE ARROWnHADOWED WHITE CIRCLEzcSQUAREmTRIANGLEsULAR MEDIUM SHADE
gSEVEN EIGHTHS BLOCKgTHREE EIGHTHS BLOCKmQUARTERS BLOCKhRIANGULAR ONE QUARTER BLOCKcZENGE
h DIVIDED BY HORIZONTAL RULEbREcIcMcObUGGAGEcNGSbYCIAN LETTER ApNoBpHoDoEpNoGoHoIoJoKpKoLoMpMoNpNoP
oQoRoSoTpHpToUoWoXoZcDIAN LETTER ApNoBoCoDoEpNoFoGoIoKoLpYoMoNpNoOoQoRoSpSoTpToUoVoYhTRIANGULAR MARK
cING FACEaMACRONcGEdIC WANDdNETcHAJANI ABBREVIATION SIGNjLETTER AqBArHAqCArHAqDArDAsHArHAqEqGArHAqHA
qIqJArHAqKArHAqLAqMAqNArNArYAqOqPArHAqRArRAqSAqTArHArTAsHAqUqVAkIGATURE SHRIjSECTION MARKkIGN NUKTA
dJONG TILE AUTUMNnBACKpMBOOnCHRYSANTHEMUMnEAST WINDoIGHT OF BAMBOOSwCHARACTERSxIRCLES
nFIVE OF BAMBOOSvCHARACTERSwIRCLESoOUR OF BAMBOOSvCHARACTERSwIRCLESnGREEN DRAGONnJOKER
nNINE OF BAMBOOSvCHARACTERSwIRCLESoORTH WINDnONE OF BAMBOOSuCHARACTERSvIRCLESoRCHIDnPLUMnRED DRAGON
nSEVEN OF BAMBOOSwCHARACTERSxIRCLESoIX OF BAMBOOSuCHARACTERSvIRCLESoOUTH WINDoPRINGoUMMER
nTHREE OF BAMBOOSwCHARACTERSxIRCLESoWO OF BAMBOOSuCHARACTERSvIRCLESnWEST WINDoHITE DRAGONoINTER
cKASAR ANGKAiEND OF SECTIONiLETTER ApBApCApDApGApJApKApLApMApNAqGAqYApPApRApSApTApVApYAiPASSIMBANG
iVOWEL SIGN EtItOtUcLAYALAM AU LENGTH MARKkDATE MARKlIGIT EIGHTqFIVErOURqNINEqONEqSEVENrIXqTHREErWO
qZEROkFRACTION ONE EIGHTHxFIFTHyORTIETHxHALFxONE-HUNDRED-AND-SIXTIETHxQUARTERxSIXTEENTHxTENTH
yWENTIETHtTHREE EIGHTIETHSzQUARTERSzSIXTEENTHSzTWENTIETHSkLETTER AsAsIsRCHAIC IIsUrBAsHArCAsHA
tILLU KyLzLzbLyMyNzNyRRyYrDAsDAtHAsHAsOT REPHrEsErGAsHArHArIsIrJAsHArKAsHArLAsLAtLArMArNAsGAsNAtNA
sYArOsOrPAsHArRAsRArSAsHAsSArTAsHAsTAtHAtTArUsUrVAsEDIC ANUSVARAsOCALIC LzbLzRzbRrYA
kNUMBER ONE HUNDREDvTHOUSANDrTENkSIGN ANUSVARAqVAGRAHApCANDRABINDUqIRCULAR VIRAMA
qOMBINING ANUSVARA ABOVEpPARApVERTICAL BAR VIRAMAqIRAMArSARGAkVOWEL SIGN AAwIwUvEwEvIwIvOwOvUwU
vVOCALIC LzfLzeRzfRdE AND FEMALE SIGNfSIGNfWITH STROKE AND MALE AND FEMALE SIGNrSIGNdTESE CROSS
cMMOTHcNd AND WOMAN HOLDING HANDSeDANCINGeIN BUSINESS SUIT LEVITATINGhTUXEDOeWITH GUA PI MAOjTURBAN
dAT SIGNdDAIC AFFRICATION MARKiGEMINATION MARKiLETTER ABqDqGqHqINqKrSAqLqMqNqPqQqRqSrHrZqTrTqZ
pDUSHENNApHALQApINqTpKADpUSHENNAiPUNCTUATIONiVOCALIZATION MARKdGOdICHAEAN ABBREVIATION MARK ABOVE
zeBELOWlLETTER AAYINtLEPHtYINsBETHtHETHsDALETHtHAMEDHsFEsGHIMELtIMELsHEuTHsJAYINtHAYINsKAPHtHAPH
sLAMEDHsMEMsNUNsPEsQHOPHtOPHsRESHsSADHEuMEKHtHINtSHINsTAWtETHtHAMEDHsWAWsXAPHtOPHsYODHsZAYINtHAYIN
lNUMBER FIVEsONEv HUNDREDsTENtWENTYlPUNCTUATION DOTzb WITHIN DOTzUBLE DOT WITHIN DOTxFLEURON
xLINE FILLERxSTARxTWO DOTSlSIGN UDdS SHOEdTELPIECE CLOCKdUAL WHEELCHAIRcP SYMBOL FOR LIGHTHOUSE
dLE LEAFcRCHEN HEAD MARKiLETTER -ApApBApCAqHApDAqZApGApHApJApKAqHApLApMApNAqGAqYApPAqHApRApSAqHApTA
qHAqSArHApWApYApZAqHAiMARK SHADiSIGN ANUSVARAnCANDRABINDUjUBJOINED LETTER AzBAzCAzbHAzDAzbZAzGAzHA
zJAzKAzbHAzLAzMAzNAzbGAzbYAzPAzbHAzRAzSAzbHAzTAzbHAzbSAzcHAzWAzYAzZAzbHAiVOWEL SIGN AAtEtItOtU
dRIAGE SYMBOLdTIAL ARTS UNIFORMcSARAM GONDI DIGIT EIGHTuFIVEvOURuNINEuONEuSEVENvIXuTHREEvWOuZERO
oLETTER AwAwIwUvBAwHAvCAwHAvDAwDAxHAwHAvEvGAwHAvHAvIwIvJAwHAwNYAvKAwHAwSSAvLAwLAvMAvNAwGAwNAwYAvOvPA
wHAvRAvSAwHAwSAvTAwHAwRAwTAxHAvUwUvVAvYAoRA-KARApEPHAoSIGN ANUSVARAtCANDRAtHALANTAtNUKTAtVISARGA
oVIRAMApOWEL SIGN AAzbIzbUzEzIzbIzOzUzbUzVOCALIC RdCULINE ORDINAL INDICATORdK WORK SYMBOLdU MARK
cTE DRINKdHEMATICAL BOLD CAPITAL AzcLPHAzbBzcETAzbCzcHIzbDzcELTAzcIGAMMAzbEzcPSILONzcTAzbFzbGzcAMMA
zbHzbIzcOTAzbJzbKzcAPPAzbLzcAMDAzbMzcUzbNzcUzbOzcMEGAzdICRONzbPzcHIzcIzcSIzbQzbRzcHOzbSzcIGMAzbTzcAU
zcHETAzg SYMBOLzbUzcPSILONzbVzbWzbXzcIzbYzbZzcETAsDIGIT EIGHTyFIVEzOURyNINEyONEySEVENzIXyTHREEzWO
yZEROsEPSILON SYMBOLsFRAKTUR CAPITAL AzjBzjCzjDzjEzjFzjGzjHzjIzjJzjKzjLzjMzjNzjOzjPzjQzjRzjSzjTzjU
zjVzjWzjXzjYzjZzbSMALL AzhBzhCzhDzhEzhFzhGzhHzhIzhJzhKzhLzhMzhNzhOzhPzhQzhRzhSzhTzhUzhVzhWzhXzhYzhZ
sITALIC CAPITAL AzjLPHAziBzjETAziCzjHIziDzjELTAziEzjPSILONzjTAziFziGzjAMMAziHziIzjOTAziJziKzjAPPAziL
zjAMDAziMzjUziNzjUziOzjMEGAzkICRONziPzjHIzjIzjSIziQziRzjHOziSzjIGMAziTzjAUzjHETAzn SYMBOLziUzjPSILON
ziVziWziXzjIziYziZzjETAzEPSILON SYMBOLzKAPPA SYMBOLzNABLAzPARTIAL DIFFERENTIALzbHI SYMBOLzbI SYMBOL
zRHO SYMBOLzSMALL AzhLPHAzgBzhETAzgCzhHIzgDzhELTAzgEzhPSILONzhTAzgFzhINAL SIGMAzgGzhAMMAzgHzgIzhOTA
zgJzgKzhAPPAzgLzhAMDAzgMzhUzgNzhUzgOzhMEGAziICRONzgPzhHIzhIzhSIzgQzgRzhHOzgSzhIGMAzgTzhAUzhHETAzgU
zhPSILONzgVzgWzgXzhIzgYzgZzhETAzTHETA SYMBOLsKAPPA SYMBOLsNABLAsPARTIAL DIFFERENTIALtHI SYMBOL
tI SYMBOLsRHO SYMBOLsSCRIPT CAPITAL AziBziCziDziEziFziGziHziIziJziKziLziMziNziOziPziQziRziSziTziUziV
ziWziXziYziZzSMALL AzgBzgCzgDzgEzgFzgGzgHzgIzgJzgKzgLzgMzgNzgOzgPzgQzgRzgSzgTzgUzgVzgWzgXzgYzgZ
tMALL AzLPHAyBzETAyCzHIyDzELTAzIGAMMAyEzPSILONzTAyFzINAL SIGMAyGzAMMAyHyIzOTAyJyKzAPPAyLzAMDAyMzUyN
zUyOzMEGAzbICRONyPzHIzIzSIyQyRzHOySzIGMAyTzAUzHETAyUzPSILONyVyWyXzIyYyZzETAsTHETA SYMBOL
nDOUBLE-STRUCK CAPITAL AzkBzkDzkEzkFzkGzkIzkJzkKzkLzkMzkOzkSzkTzkUzkVzkWzkXzkYzcDIGIT EIGHTziFIVE
zjOURziNINEziONEziSEVENzjIXziTHREEzjWOziZEROzcSMALL AziBziCziDziEziFziGziHziIziJziKziLziMziNziOziP
ziQziRziSziTziUziVziWziXziYziZnFALLING DIAGONALoRAKTUR CAPITAL AzeBzeDzeEzeFzeGzeJzeKzeLzeMzeNzeOzeP
zeQzeSzeTzeUzeVzeWzeXzeYvSMALL AzcBzcCzcDzcEzcFzcGzcHzcIzcJzcKzcLzcMzcNzcOzcPzcQzcRzcSzcTzcUzcVzcW
zcXzcYzcZnITALIC CAPITAL AzeLPHAzdBzeETAzdCzeHIzdDzeELTAzdEzePSILONzeTAzdFzdGzeAMMAzdHzdIzeOTAzdJzdK
zeAPPAzdLzeAMDAzdMzeUzdNzeUzdOzeMEGAzfICRONzdPzeHIzeIzeSIzdQzdRzeHOzdSzeIGMAzdTzeAUzeHETAzi SYMBOL
zdUzePSILONzdVzdWzdXzeIzdYzdZzeETAuEPSILON SYMBOLuKAPPA SYMBOLuNABLAuPARTIAL DIFFERENTIALvHI SYMBOL
vI SYMBOLuRHO SYMBOLuSMALL AzcLPHAzbBzcETAzbCzcHIzbDzcELTAzcOTLESS IzjJzbEzcPSILONzcTAzbF
zcINAL SIGMAzbGzcAMMAzbIzcOTAzbJzbKzcAPPAzbLzcAMDAzbMzcUzbNzcUzbOzcMEGAzdICRONzbPzcHIzcIzcSIzbQzbR
zcHOzbSzcIGMAzbTzcAUzcHETAzbUzcPSILONzbVzbWzbXzcIzbYzbZzcETAuTHETA SYMBOLnLEFT ANGLE BRACKET
sDOUBLE ANGLE BRACKETsFLATTENED PARENTHESISsWHITE SQUARE BRACKETyTORTOISE SHELL BRACKET
nMONOSPACE CAPITAL AzgBzgCzgDzgEzgFzgGzgHzgIzgJzgKzgLzgMzgNzgOzgPzgQzgRzgSzgTzgUzgVzgWzgXzgYzgZ
xDIGIT EIGHTzeFIVEzfOURzeNINEzeONEzeSEVENzfIXzeTHREEzfWOzeZEROxSMALL AzeBzeCzeDzeEzeFzeGzeHzeIzeJzeK
zeLzeMzeNzeOzePzeQzeRzeSzeTzeUzeVzeWzeXzeYzeZnRIGHT ANGLE BRACKETtDOUBLE ANGLE BRACKET
tFLATTENED PARENTHESIStWHITE SQUARE BRACKETzTORTOISE SHELL BRACKETpSING DIAGONAL
nSANS-SERIF BOLD CAPITAL AznLPHAzmBznETAzmCznHIzmDznELTAzmEznPSILONznTAzmFzmGznAMMAzmHzmIznOTAzmJzmK
znAPPAzmLznAMDAzmMznUzmNznUzmOznMEGAzoICRONzmPznHIznIznSIzmQzmRznHOzmSznIGMAzmTznAUznHETAzr SYMBOL
zmUznPSILONzmVzmWzmXznIzmYzmZznETAzeDIGIT EIGHTzkFIVEzlOURzkNINEzkONEzkSEVENzlIXzkTHREEzlWOzkZERO
zeEPSILON SYMBOLzeITALIC CAPITAL AzuLPHAztBzuETAztCzuHIztDzuELTAztEzuPSILONzuTAztFztGzuAMMAztHztI
zuOTAztJztKzuAPPAztLzuAMDAztMzuUztNzuUztOzuMEGAzvICRONztPzuHIzuIzuSIztQztRzuHOztSzuIGMAztTzuAUzuHETA
zy SYMBOLztUzuPSILONztVztWztXzuIztYztZzuETAzlEPSILON SYMBOLzlKAPPA SYMBOLzlNABLA
zlPARTIAL DIFFERENTIALzmHI SYMBOLzmI SYMBOLzlRHO SYMBOLzlSMALL AzsLPHAzrBzsETAzrCzsHIzrDzsELTAzrE
zsPSILONzsTAzrFzsINAL SIGMAzrGzsAMMAzrHzrIzsOTAzrJzrKzsAPPAzrLzsAMDAzrMzsUzrNzsUzrOzsMEGAztICRONzrP
zsHIzsIzsSIzrQzrRzsHOzrSzsIGMAzrTzsAUzsHETAzrUzsPSILONzrVzrWzrXzsIzrYzrZzsETAzlTHETA SYMBOL
zeKAPPA SYMBOLzeNABLAzePARTIAL DIFFERENTIALzfHI SYMBOLzfI SYMBOLzeRHO SYMBOLzeSMALL AzlLPHAzkBzlETA
zkCzlHIzkDzlELTAzkEzlPSILONzlTAzkFzlINAL SIGMAzkGzlAMMAzkHzkIzlOTAzkJzkKzlAPPAzkLzlAMDAzkMzlUzkNzlU
zkOzlMEGAzmICRONzkPzlHIzlIzlSIzkQzkRzlHOzkSzlIGMAzkTzlAUzlHETAzkUzlPSILONzkVzkWzkXzlIzkYzkZzlETA
zeTHETA SYMBOLyCAPITAL AzhBzhCzhDzhEzhFzhGzhHzhIzhJzhKzhLzhMzhNzhOzhPzhQzhRzhSzhTzhUzhVzhWzhXzhYzhZ
yDIGIT EIGHTzfFIVEzgOURzfNINEzfONEzfSEVENzgIXzfTHREEzgWOzfZEROyITALIC CAPITAL AzoBzoCzoDzoEzoFzoGzoH
zoIzoJzoKzoLzoMzoNzoOzoPzoQzoRzoSzoTzoUzoVzoWzoXzoYzoZzgSMALL AzmBzmCzmDzmEzmFzmGzmHzmIzmJzmKzmLzmM
zmNzmOzmPzmQzmRzmSzmTzmUzmVzmWzmXzmYzmZySMALL AzfBzfCzfDzfEzfFzfGzfHzfIzfJzfKzfLzfMzfNzfOzfPzfQzfR
zfSzfTzfUzfVzfWzfXzfYzfZoCRIPT CAPITAL AzdCzdDzdGzdJzdKzdNzdOzdPzdQzdSzdTzdUzdVzdWzdXzdYzdZuSMALL A
zbBzbCzbDzbFzbHzbIzbJzbKzbLzbMzbNzbPzbQzbRzbSzbTzbUzbVzbWzbXzbYzbZcXIMIZEcYAN NUMERAL EIGHTtEEN
pLEVENoFIFTEENqVEpOURsTEENoNINEsTEENoONEoSEVENtTEENpIXrTEENoTENpHIRTEENqREEpWELVEqOoZERO
bEASURED ANGLEo OPENING LEFTpWITH OPEN ARM ENDING IN ARROW POINTING DOWN AND LEFTzznRIGHT
zzeLEFT AND DOWNzznUPzzeRIGHT AND DOWNzzoUPzzeUP AND LEFTzzlRIGHTjBYjRIGHT ANGLE WITH DOTdT ON BONE
cCHANICAL ARMlLEGcDEFAIDRIN CAPITAL LETTER AzdIzdTIUzcBzcCzcDzcEzcFzcGzcHzdPzcIzcJzcKzdPzcLzcMzcNzdG
zdYzcOzdEzcPzcQzcRzcSzcTzcUzcVzcWzcXzcYzdUzcZnOMMAmDIGIT EIGHTsFIVEtOURsNINEsONEv ALTERNATE FORM
sSEVENtIXsTHREEx ALTERNATE FORMtWOv ALTERNATE FORMsZEROmEXCLAMATION OHmFULL STOPmNUMBER EIGHTEEN
uLEVENtFIFTEENuOURTEENtNINETEENtSEVENTEENuIXTEENtTENuHIRTEENuWELVEmSMALL LETTER AzbIzbTIUzBzCzDzEzF
zGzHzbPzIzJzKzbPzLzMzNzbGzbYzOzbEzPzQzRzSzTzUzVzWzXzYzbUzZnYMBOL AIVAdIEVAL COMMAjEXCLAMATION MARK
jQUESTION MARKeUM BLACK CIRCLEiOLD WHITE CIRCLEhEIGHT POINTED BLACK STARnSPOKED ASTERISK
hFIVE SPOKED ASTERISKiLATTENED LEFT PARENTHESIS ORNAMENTrRIGHT PARENTHESIS ORNAMENT
iOUR POINTED BLACK STARuPINWHEEL STARhGREEK CROSShLEFT CURLY BRACKET ORNAMENTmPARENTHESIS ORNAMENT
l-POINTING ANGLE BRACKET ORNAMENThMATHEMATICAL SPACEhRIGHT CURLY BRACKET ORNAMENT
nPARENTHESIS ORNAMENTm-POINTING ANGLE BRACKET ORNAMENThSALTIREiHADEiIX POINTED BLACK STAR
lSPOKED ASTERISKiMALL WHITE CIRCLEhTHREE POINTED BLACK STARvPINWHEEL STARhVERTICAL BARhWHITE CIRCLE
nSQUAREcETEI MAYEK AHANG KHUDAMoNJIoPUN IYEKnCHEIKHANtEInDIGIT EIGHTtFIVEuOURtNINEtONEtSEVENuIX
tTHREEuWOtZEROnLETTER ATIYAuBAvHAMuCHAwILuDDAwHAvHOUvILuEuGHOUvOKuHUKuIv LONSUMuJHAMvILuKHOUvOK
x LONSUMuLAIx LONSUMuMITx LONSUMuNAw LONSUMvGOUy LONSUMvNAvYAuOuPAw LONSUMvHAMuRAIuSAMvHAvSAuTHOUvIL
x LONSUMvTAwHAuUNuWAIuYANGoUM IYEKnSYLLABLE REPETITION MARKnVIRAMAoOWEL SIGN AAIzbUzNAPzUyCHEINAPyII
zNAPyNUNGyONAPySOUNAPyUNAPzUyVISARGAyYENAPnWORD REPETITION MARKcLONdTING FACEcMO
cNDE KIKAKUI COMBINING NUMBER HUNDRED THOUSANDSznSzgMILLIONSzgTEENSziN THOUSANDSzjSzhHOUSANDS
oDIGIT EIGHTuFIVEvOURuNINEuONEuSEVENvIXuTHREEvWOoSYLLABLE M001 KIzb2 KAzb3 KUzb4 WIzb5 WAzb6 WU
zb7 MINzb8 MANzb9 MUNz10 BIzb1 BAzb2 BUzb3 Izb4 Azb5 Uzb6 DIzb7 DAzb8 DUzb9 SIz20 SAzb1 SUzb2 TI
zb3 TAzb4 TUzb5 LIzb6 LAzb7 LUzb8 JIzb9 JAz30 JUzb1 YIzb2 YAzb3 YUzb4 FIzb5 FAzb6 FUzb7 NINzb8 NAN
zb9 NUNz40 HEEzb1 HAzb2 HOOzb3 NGGAzb4 KPEEzb5 WOzb6 HUANzb7 MBEEzb8 KOzb9 WVAz50 PUzb1 PEzb2 HEN
zb3 HINzb4 LOOzb5 TEzb6 GBAzb7 NGONzb8 NYANzb9 MENz60 NYONzb1 WVIzb2 MBAzb3 JOzb4 NDOzb5 KEEzb6 PO
zb7 NDOOzb8 PIzb9 TOz70 GBOzb1 GBOOzb2 MBEzb3 LEzb4 KPUzb5 FEzb6 KOOzb7 VOzb8 FEEzb9 SOz80 YEzb1 PEE
zb2 NGGUzb3 HEEIzb4 LEEzb5 VEzb6 LONG NGGEzb7 HUNzb8 FOzb9 DEEz90 NGGIzb1 TEEzb2 KPAzb3 GBEEzb4 MON
zb5 KEzb6 HEzb7 BEzb8 NYENzb9 PAy100 Ezb1 FANzb2 POOzb3 BOOzb4 TOOzb5 LONG MBOOzb6 LONG NGGOOzb7 GBE
zb8 KPEzb9 YEEz10 LONG LEzb1 GAzb2 KPOOzb3 JEzb4 WOOzb5 NGGEEzb6 SEzb7 NENzb8 WEzb9 NDEz20 NGGO
zb1 YOzb2 MBUzb3 NDIzb4 GBIzb5 NDUzb6 WEEzb7 NGGUAzb8 HOOUzb9 NDAz30 HANzb1 INzb2 KPIzb3 FOOzb4 NJOO
zb5 INzb6 SOOzb7 EIzb8 BOzb9 WVEz40 HOzb1 YOOzb2 LONG MBOzb3 WEIzb4 VOOzb5 MBIzb6 NGGEzb7 Ozb8 GBU
zb9 NJEEz50 BEEzb1 VUzb2 NJAzb3 LOzb4 MUANzb5 GIzb6 NGGOOzb7 JEEzb8 KPOzb9 NGGAAz60 JOOzb1 LONG MBE
zb2 SEEzb3 EEzb4 NYINzb5 OOzb6 GUEIzb7 GUANzb8 GUzb9 NONz70 NYUNzb1 RAzb2 MBOOzb3 VEEzb4 MBO
zb5 LONG JOzb6 HIzb7 NGUANzb8 ENzb9 KUAz80 DOOzb1 DOzb2 VIzb3 LONG NGGOzb4 NGENzb5 VAzb6 HUzb7 MBUU
zb8 MBEEzb9 MUENz90 GEEzb1 NDEEzb2 NJUzb3 HONzb4 WUIzb5 ANzb6 SIAzb7 FUAdORAH WITH NINE BRANCHES
dS SYMBOLcRCURYdOITIC CURSIVE FRACTION EIGHT TWELFTHSzcLEVEN TWELFTHSzbFIVE TWELFTHSzcOUR TWELFTHS
zbNINE TWELFTHSzbONE HALFzfTWELFTHzbSEVEN TWELFTHSzcIX TWELFTHSzbTEN TWELFTHSzcHREE TWELFTHS
zcWO TWELFTHSrLETTER AzRCHAIC SAyBAyDAyEyHHAyIyKAzHAyLAyMAyNAzEyOyPAyQAyRAySAzEyTAzEzOyWAyYA
sOGOGRAM IMNzbRMTrNUMBER EIGHTze HUNDREDzm THOUSANDzfTHOUSANDzeY THOUSANDyFIFTYze THOUSANDzbVE
zd HUNDREDzl THOUSANDzeTHOUSANDzORTYze THOUSANDzbURzd HUNDREDzl THOUSANDzeTHOUSANDyNINEzd HUNDRED
zl THOUSANDzeTHOUSANDzdTY THOUSANDyONEzc HUNDREDzk THOUSANDzdTHOUSANDySEVENze HUNDREDzm THOUSAND
zfTHOUSANDzeTYzg THOUSANDzIXzc HUNDREDzk THOUSANDzdTHOUSANDzcTYze THOUSANDyTENzc THOUSANDzHIRTY
zf THOUSANDzbREEze HUNDREDzm THOUSANDzfTHOUSANDzWENTYzf THOUSANDzbOzc HUNDREDzk THOUSANDzdTHOUSAND
jHIEROGLYPHIC LETTER AzeBAzg-2zeDAzeEzeHHAzeIzeKAzfHAzeLAzeMAzeNAzg-2zfEzg-2zeOzePAzeQAzeRAzg-2zeSA
zg-2zfEzeTAzg-2zfEzg-2zfOzeWAzeYAwSYMBOL VIDJzi-2dPERSONcSSAGE WAITINGcTRICAL BREVEjLONG OVER SHORT
tTWO SHORTSjPENTASEMEjSHORT OVER LONGjTETRASEMEkRISEMEkWO SHORTS JOINEDuOVER LONGeObIAO LETTER AH
nRCHAIC MAuNAvGAuZZAmBAnRImDAnDAnLHApYAnZAoHAoYIoZAmFAmGAnHAoHAmHAnHAmKAmLAnHAoYAnYAmMAnHAmNA
oSALIZATIONnGAoHAnHAnNAoHAnYAoHAmPAnLAmQAnGAmREFORMED TONE-1zb2zb4zb5zb6zb8wSHAnTEmSAnHAnSAnYImTAnE
nLHApYAnONE-2r3r4r5r6r7r8nSAoEoHAoSAnTAmVAnFAmWAmXAmYI DZHApKApNNApPApTAqSArHAqTAmZAnHAnSAoHAnZAoSA
pYAoYAfSIGN ASPIRATIONkCONSONANT MODIFIER BARkREFORMED ASPIRATIONtVOICINGfTONE ABOVEkBELOWkRIGHT
kTOP RIGHTfVOWEL SIGN ArArEsErHHrIrNsGrUqErArIrNsGrRsRqIrAsNtGrErGrIrNGrOsNGrUqNrGqOrERsYrGrOrU
qROUNDED ERzbRqUrAsNtGrEIrIrNGrOGrUqVWqWrOqYrIrUIcCR DASH SYMBOLfON US SYMBOLeO SIGNfBEfPHONEfSCOPE
cDDLE DOThTHIRD WHITE RIGHT POINTING INDEXdLINE HORIZONTAL ELLIPSIScLITARY HELMETjMEDALdKY WAY
dL SIGNcNIBUSeDISCeMIZEdUS SIGNk IN TRIANGLElWITH COMMA ABOVEqDOT BELOWqFALLING DOTSqRISING DOTS
gTILDEf-OR-PLUS SIGNdYcRRORg BALLbMSPbOBILE PHONEm OFFnWITH RIGHTWARDS ARROW AT LEFTcDELS
eRN PENTATHLONdI ABBREVIATION SIGNfDANDAgIGIT EIGHTlFIVEmOURlNINElONElSEVENmIXlTHREEmWOlZERO
gOUBLE DANDAfLETTER AnAnInUmBAnHAmCAnHAmDAnDAoHAnHAmEmGAnHAmHAmInImJAnHAmKAnHAmLAnLAmMAmNAnGAnNAnYA
mOmPAnHAmRAmSAnHAnSAmTAnHAnTAoHAmUnUmVAnOCALIC LvLuRvRmYAfSIGN ANUSVARAlRDHACANDRAkHUVAkVIRAMAmSARGA
fVOWEL SIGN AArIrUqEqIrIqOqUrUqVOCALIC LzLyRzReFIER BREVE WITH INVERTED BREVEjLETTER ACUTE ACCENT
rLVEOLAR CLICKrPOSTROPHEqBEGIN HIGH TONEwLOW TONErILABIAL CLICKqCAPITAL AzEyBzARRED ByCyDyEyFyGyH
z WITH STROKEyIyJyKyLyMyNyOzUyPyQyRzEVERSED EziNyTyUyVyWrENTRED LEFT HALF RINGyRIGHT HALF RING
rHINESE TONE YANG PINGzjQUzjRUzjSHANGzfIN PINGziQUziRUziSHANGrIRCUMFLEX ACCENTrOLONrROSS ACCENT
rYRILLIC ENzHARD SIGNzSOFT SIGNqDENTAL CLICKrOT HORIZONTAL BARuSLASHuVERTICAL BARsUBLE APOSTROPHE
xPRIMEsWN ARROWHEADvTACKqEND HIGH TONEuLOW TONErXTRA-HIGH DOTTED LEFT-STEM TONE BARzjTONE BAR
zcLEFT-STEM TONE BARzcTONE BARwLOW DOTTED LEFT-STEM TONE BARziTONE BARzbLEFT-STEM TONE BARzbTONE BAR
qGEORGIAN NARrLOTTAL STOPzd WITH STROKErRAVE ACCENTqHALF TRIANGULAR COLON
rIGH DOTTED LEFT-STEM TONE BARzdTONE BARvLEFT-STEM TONE BARvTONE BARqLATERAL CLICKrEFT ARROWHEAD
vHALF RINGvTACKrOW ACUTE ACCENTuCIRCUMFLEX ACCENTuDOTTED LEFT-STEM TONE BARzcTONE BARwWN ARROWHEAD
uGRAVE ACCENTuINVERTED EXCLAMATION MARKuLEFT ARROWzfHEADy-STEM TONE BARuMACRONuRIGHT ARROWHEADwNG
uTILDEvONE BARuUP ARROWHEADuVERTICAL LINEtER RIGHT CORNER ANGLEqMACRONrID DOTTED LEFT-STEM TONE BAR
zcTONE BARuLEFT-STEM TONE BARuTONE BARtDLE DOUBLE ACUTE ACCENTzfGRAVE ACCENTxGRAVE ACCENTsNUS SIGN
qOPEN SHELFqPLUS SIGNrRIMEqRAISED COLONxDOWN ARROWxEXCLAMATION MARKxINVERTED EXCLAMATION MARK
xUP ARROWrETROFLEX CLICK WITH RETROFLEX HOOKsVERSED COMMAzGLOTTAL STOPzm WITH STROKErHOTIC HOOK
rIGHT ARROWHEADwHALF RINGwTACKqSHELFsORT EQUALS SIGNrMALL AxExINxLPHAwBx WITH HOOKxARRED OxETA
xOTTOM HALF OwCx WITH CURLxAPITAL AAzfBzfGzg WITH HOOKzfHzfIzg WITH STROKEzgNVERTED RzfLzg WITH BELT
zfNzfOEzfRzfUzfYxHIxLOSED OMEGAzeREVERSED OPEN EwDx WITH HOOKzi AND TAILzeTAILxELTAyZH DIGRAPH
xOTLESS J WITH STROKEzs AND HOOKxZ DIGRAPHzh WITH CURLznRETROFLEX HOOKwExNGxSHxTHxZHwFxENG DIGRAPHwG
x WITH HOOKxAMMAxREEK GAMMAzdPHIwHx WITH HOOKzeSTROKExENGzb WITH HOOKwI WITH STROKExOTAwJ
x WITH CROSSED-TAILwKwLx WITH BELTzeINVERTED LAZY SzeMIDDLE TILDEzePALATAL HOOKzeRETROFLEX HOOK
zs AND BELTxEZHzb WITH RETROFLEX HOOKxIGATURE OExS DIGRAPHxZ DIGRAPHwMx WITH HOOKwN WITH LEFT HOOK
zeRETROFLEX HOOKwOx WITH STROKExPEN EzcOwPxHIwQwRx WITH FISHHOOKzeTAILxAMS HORNxEVERSED E
zgGLOTTAL STOPzgOPEN EwSx WITH CURLzeHOOKxCHWAyRIPT GxIDEWAYS UwTx WITH PALATAL HOOKzeRETROFLEX HOOK
xC DIGRAPH WITH CURLxESH DIGRAPHxHETAxOP HALF OxS DIGRAPHzh WITH RETROFLEX HOOKxURNED AzfEzfLPHAzeH
zeIzeMzf WITH LONG LEGzeOPEN EzeRzf WITH HOOKzlLONG LEGzt AND RETROFLEX HOOKzeVzeWzeYzf WITH BELTwU
x BARyWITH LEFT HOOKxPSILONwVx WITH HOOKzeRIGHT HOOKwWwXwYwZx WITH CURLzeRETROFLEX HOOK
rTRESS AND HIGH TONEzcLOW TONErUPERSCRIPT HALF TRIANGULAR COLONzdTRIANGULAR COLONqTRIANGULAR COLON
rURNED COMMAqUNASPIRATEDrP ARROWHEADtTACKrSqVERTICAL LINErOICINGqYANG DEPARTING TONE MARK
rIN DEPARTING TONE MARKdULO TWO SUMcNEY BAGgWITH WINGSf-MOUTH FACEdGOLIAN BIRGA
p WITH DOUBLE ORNAMENTvORNAMENTkCOLONmMMAkDIGIT EIGHTqFIVErOURqNINEqONEqSEVENrIXqTHREErWOqZERO
lOUBLE BIRGA WITH ORNAMENTkELLIPSISkFOUR DOTSlREE VARIATION SELECTOR FOURzjONEzjTHREEzkWOlULL STOP
kINVERTED BIRGAy WITH DOUBLE ORNAMENTkLETTER AsLI GALI AzcHzcNUSVARA ONEzbBALUDAzbCAzbDAzdGALGA
zdMARUzcDAzbHALF UzgYAzbIzcNVERTED UBADAMAzbKAzbNGAzcNAzbPAzcHAzbSSAzbTAzcHREE BALUDAzcTAzdHA
zbUBADAMAzbVISARGA ONEzbZAzcHAsNGrBArCHAu WITH TWO DOTStIrDArEsErFArGArHAArIrJArKAsHArLAsHArMA
tNCHU ALI GALI BHAziCAzjYAziDDHAzjHAziGHAziJHAziLHAziNGAziSSAziTAzjTAziZAzjHAyFAyIyKAyRAyZHArNArOsE
rPArQArRArSAsHAsIBE ANGwCHAwDAwEwFAwGAyAwHAyAwIxYwJAwKAwPAwRAAwSHAwTAxSAwUxEwZAxHArTA
sODO ALI GALI TAzgZHAxNGwBAwCHAwDAxZAwEwGAyAwHAAwIwJAxIAwKAwLONG VOWEL SIGNwMAwNIAwOxEwPAwQAwTAxSAwU
xEwWAwYAsSArUsErWArYArZAsHIsRAkMANCHU COMMArFULL STOPkNIRUGUkROTATED BIRGAx WITH DOUBLE ORNAMENT
zeORNAMENTkSIBE SYLLABLE BOUNDARY MARKERlWIRL BIRGAv WITH DOUBLE ORNAMENTzcORNAMENTkTODO SOFT HYPHEN
lRIPLE BIRGA WITH ORNAMENTlURNED SWIRL BIRGA WITH DOUBLE ORNAMENTkVOWEL SEPARATORdKEYg FACE
dOGRAM FOR EARTHnYANGoINeRAILeSTABLE SYMBOLcOD BUBBLEdN CAKEfVIEWING CEREMONYcSQUEfITO
cTHER CHRISTMASdOR BOATgSCOOTERfIZED WHEELCHAIRfWAYcUNT FUJIfAINi BICYCLISTjCABLEWAYjRAILWAYdSE
f FACEgTRAPdTHcVIE CAMERAcYAIbRO DANDAfIGIT EIGHTkFIVElOURkNINEkONEkSEVENlIXkTHREElWOkZERO
fOUBLE DANDAeLETTER AlBAlCHUlDAnIlEmAlHAInOlKEAAEmHAImOlLAnNlMAEMmIMlNGImINlOmLmOlPAmHIlRImOlSHIlTA
mEKmHEAlWAlYObUCH GREATER-THANfLESS-THANcLTANI LETTER ApBAqHApCAqHApDAqDArDArHAqHApEpGAqHApHApIpJA
qJApKAqHApLApMApNAqNAqYApPAqHApRAqHAqRApSApTAqHAqTArHApUpVApYAiSECTION MARKeIMAPfPLE MUSICAL NOTES
hICATION SIGNt IN DOUBLE CIRCLExLEFT HALF CIRCLExRIGHT HALF CIRCLExTRIANGLEuWITH DOT ABOVEzUNDERBAR
pXfSETi MULTIPLICATIONjUNIONcSHROOMdIC FLAT SIGNgNATURAL SIGNgSHARP SIGNfAL KEYBOARDq WITH JACKS
iNOTEiSCOREjYMBOL ARPEGGIATO DOWNzbUPpBEGIN BEAMvPHRASEvSLURvTIEqRACEtKETrEATH MARKsVEtISv REST
pC CLEFqAESURAqIRCLE X NOTEHEADqLIMACUSsVISrUSTER NOTEHEAD BLACKzhWHITEqODArMBINING ACCENT
zg-STACCATOzbUGMENTATION DOTzBENDzDOITzcUBLE TONGUEzcWN BOWzFLAG-1zf2zf3zf4zf5zcIPzHARMONICzLOURE
zMARCATOzh-STACCATOzRIPzSMEARzbNAP PIZZICATOzbPRECHGESANG STEMzbTACCATISSIMOzhOzcEMzTENUTOzbREMOLO-1
zi2zi3zcIPLE TONGUEzUP BOWsMON TIMEqRESCENDOrOIXqUT TIMEpDA CAPOrL SEGNOrMPt ALLrSHED BARLINE
qECRESCENDOrGREE SLASHqOUBLE BARLINEwFLATwSHARPqRUM CLEF-1z2pEIGHTH NOTEwRESTqND BEAMtOF STIMME
tPHRASEtSLURtTIEpF CLEFv OTTAVA ALTAzeBASSAqERMATAw BELOWqINAL BARLINEsGERED TREMOLO-1zh2zh3
rVE-LINE STAFFqLAT DOWNuUPqORTErUR-LINE STAFFuSTRING FRETBOARDqUSA BLACKuWHITEpG CLEFv OTTAVA ALTA
zeBASSAqLISSANDO DOWNzUPqRACE NOTE NO SLASHzbSLASHrEGORIAN C CLEFzF CLEFpHALF NOTEuPEDAL MARKuREST
rUPTSTIMMEpINVERTED TURNpKIEVAN C CLEFwEIGHTH NOTE STEM DOWNzoUPxND OF PIECEwFINAL NOTExLAT SIGN
wHALF NOTEwQUARTER NOTE STEM DOWNzpUPwRECITATIVE MARKwWHOLE NOTEqORONpLEFT REPEAT SIGNqONGA
u IMPERFECTA RESTvPERFECTA RESTpMAXIMAqEZZOqINIMAv BLACKwRESTqOON NOTEHEAD BLACKzeWHITEqULTI REST
uPLE MEASURE RESTpNATURAL DOWNxUPqEBENSTIMMEqOTEHEAD BLACKqULL NOTEHEAD
pONE HUNDRED TWENTY-EIGHTH NOTEzqRESTs-LINE STAFFqRNAMENT STROKE-1zh0zh1zg2zg3zg4zg5zg6zg7zg8zg9
qTTAVA ALTAwBASSApPARENTHESIS NOTEHEADqEDAL MARKvUP MARKrS SUBPUNCTISqIANOqLUS NOTEHEADqODATUS
rRRECTUSy FLEXUSpQUARTER NOTExRESTxTONE FLATzdSHARPrINDICESIMA ALTAzdBASSApREPEAT DOTSvED FIGURE-1
zg2zg3rVERSE FINAL BARLINEqIGHT REPEAT SIGNrNFORZANDOpSCANDICUSy FLEXUSqEGNOrMIBREVIS BLACKzbREST
zbWHITEtMINIMA BLACKzbRESTzbWHITEqHARP DOWNvUPrORT BARLINEqINGLE BARLINErX-LINE STAFF
tSTRING FRETBOARDsTEENTH NOTEzRESTtY-FOURTH NOTEzdRESTqORIqQUARE BwNOTEHEAD BLACKzgWHITEqUBITO
pTEMPUS IMPERFECTUM CUM PROLATIONE IMPERFECTAzzj DIMINUTION-1zzv2zzv3zyPERFECTA
wPERFECTUM CUM PROLATIONE IMPERFECTAzwPERFECTAzzf DIMINUTION-1qHIRTY-SECOND NOTEzeREST
rREE-LINE STAFFqORCULUSx RESUPINUSqRrIANGLE NOTEHEAD DOWN BLACKznWHITEziLEFT BLACKznWHITE
ziRIGHT BLACKzoWHITEziUP BLACKzlRIGHT BLACKzrWHITEzlWHITEx-ROUND NOTEHEAD DOWN BLACKztWHITEqURN
t SLASHuUPqWO-LINE STAFFpVIRGAqOID NOTEHEADpWHOLE NOTEvRESTqITH FINGERNAILSpX NOTEHEADpZbVSbW
bYANMAR CONSONANT SIGN MEDIAL HAzfRAzfWAzfYAyON MEDIAL LAzjMAzjNAxSHAN MEDIAL WAiDIGIT EIGHToFIVE
pOURoNINEoONEoSEVENpIXoTHREEpWOoZEROiLETTER AqITON RAqUpBAqHApCAqHApDAqDArHAqHApE
qASTERN PWO KAREN GHWAziNNAziYWApGAqHAqREAT SApHApIqIpJAqHApKAqHAsMTI CAxHAwDDAyHAxHAwFAwGAwHAxHAwJA
xHAwLLAwNAxYAwRAwSAwTTAyHAwXAwZApLAqLApMAqON BBAvEtEtJHAtNGApNAqGAqNArYAqYApOpPAqHApRA
qUMAI PALAUNG FApSAqGAW KAREN SHAqHAsN AuBAvHAuCAvHAuDAuFAuGAvHAuHAuJHAuKAvHAuNAvNAvYAuPHAuTHAuZA
rWE PALAUNG CHAzdSHAqSApTArI LAING BAzbHAzDAzbDAzcHAzbHAzFAzGAzbHAzJAzbHAzLLAzNNAzbYAqHAqTArHApUqU
pVOCALIC LyLxRyRpWAqESTERN PWO KAREN PWAziTHApYAjOGOGRAM KHAMTI HMyOAYyQN
iMODIFIER LETTER KHAMTI REDUPLICATIONySHAN REDUPLICATIONiSHAN DIGIT EIGHTtFIVEuOURtNINEtONEtSEVENuIX
tTHREEuWOtZEROjIGN ANUSVARAoSATnDOT BELOWnKHAMTI TONE-1z3nLITTLE SECTIONnPAO KAREN TONE
nRUMAI PALAUNG TONE-5nSECTIONoHAN COUNCIL EMPHATIC TONEzbTONE-2zg3sSAWsTONE-2x3x5x6nTAI LAING TONE-2
zd5nVIRAMApSARGAnWESTERN PWO KAREN TONE-1zl2zl3zl4zl5jYMBOL AFOREMENTIONEDqITON EXCLAMATIONvONEvTWO
pCOMPLETEDpGENITIVEpLOCATIVEpSHAN EXCLAMATIONuONEiTAI LAING DIGIT EIGHTyFIVEzOURyNINEyONEySEVENzIX
yTHREEzWOyZEROjONE MARK SGAW KAREN HATHIzeKE PHOiVOWEL SIGN AAuIvTON AzbItEu ABOVEtGEBA KAREN ItIuI
tKAYAH EEzOEzUtMON IIxOtSGAW KAREN EUuHAN AAyEz ABOVEyFINAL YtTALL AAtUuUtVOCALIC LzdLzcRzdR
tWESTERN PWO KAREN EUzmUEaN-ARY CIRCLED DOT OPERATORoPLUS OPERATORoTIMES OPERATORhOPRODUCT
gINTERSECTIONgLOGICAL ANDoORgPRODUCTgSQUARE INTERSECTION OPERATORnUNION OPERATORhUMMATION
gTIMES OPERATORgUNIONl OPERATOR WITH DOTzbPLUSgWHITE VERTICAL BARbABATAEAN CRUCIFORM NUMBER FOUR
kLETTER ALEPHsYINrBETHrDALETHrFINAL ALEPHxBETHxHExKAPHxLAMEDHxMEMxNUNxSHINxYODHrGIMELrHEtTHrKAPH
rLAMEDHrMEMrNUNrPErQOPHrRESHrSADHEtMEKHsHINrTAWsETHrWAWrYODHrZAYINkNUMBER FIVEsOURrONEu HUNDREDrTEN
sHREEsWENTYtOdLAcIL POLISHdRA SIGNcKcME BADGEcNDeINAGARI HEADSTROKEmLETTER AuAuIuUtBAuHAtCAuHAtDAuDA
vHAuHAtEtGAuHAtHAtIuItJAuHAtKAuHAtLAuLAtMAtNAuGAuNAuYAtOtPAuHAtRAuRAtSAuHAuSAtTAuHAuTAvHAtUuUtVA
uOCALIC RzdRtYAmSIGN ANUSVARAsVAGRAHArSIDDHAMrVIRAMAtSARGAmVOWEL SIGN AAyIyUxExIyIxOxPRISHTHAMATRA E
xUyUxVOCALIC RzhRcRROW NO-BREAK SPACEcTIONAL DIGIT SHAPESjPARKcUSEATED FACEcZAR AMULETbBHcSPbECKTIE
cGATED DOUBLE VERTICAL BAR DOUBLE RIGHT TURNSTILEfIVE ACKNOWLEDGEjCIRCLED DIGIT ZERO
rLATIN CAPITAL LETTER AznBznCznDznEznFznGznHznIznJznKznLznMznNznOznPznQznRznSznTznUznVznWznXznYznZ
rNUMBER EIGHTEENzLEVENyFIFTEENzOURTEENyNINETEENySEVENTEENzIXTEENyTHIRTEENzWELVEzcNTYrSQUARErTRIANGLE
jDIAGONAL CROSSsDIAMONDsMIDDLE RIGHT TO LOWER CENTREjSQUARED ABrCROSS MARKrICrLATIN CAPITAL LETTER A
znBznCznDznEznFznGznHznIznJznKznLznMznNznOznPznQznRznSznTznUznVznWznXznYznZrPArQUESTION MARKrSArWC
cITHER A SUBSET OF NOR EQUAL TOmPERSET OF NOR EQUAL TOjPPROXIMATELY NOR ACTUALLY EQUAL TO
iGREATER-THAN NOR EQUAL TOzdIVALENT TOzLESS-THANiLESS-THAN NOR EQUAL TOzIVALENT TOwGREATER-THANcL
cPTUNEh FORM TWOcRD FACEcSSUSdT WITH EGGSeING DOLLScUTEReRAL CHESS BISHOPu ROTATED NINETY DEGREES
zeTWO HUNDRED SEVENTY DEGREESoEQUIHOPPERy ROTATED NINETY DEGREESoKINGs ROTATED NINETY DEGREES
zcTWO HUNDRED SEVENTY DEGREESpNIGHTu ROTATED FORTY-FIVE DEGREESzeNINETY DEGREES
zeONE HUNDRED THIRTY-FIVE DEGREESzeTHREE HUNDRED FIFTEEN DEGREESzfWO HUNDRED SEVENTY DEGREES
zqTWENTY-FIVE DEGREESoPAWNs ROTATED NINETY DEGREESzcTWO HUNDRED SEVENTY DEGREESoQUEEN
t ROTATED NINETY DEGREESzdTWO HUNDRED SEVENTY DEGREESoROOKs ROTATED NINETY DEGREES
zcTWO HUNDRED SEVENTY DEGREESoTURNED BISHOPvKINGwNIGHTvPAWNvQUEENvROOKiFACEcW LINEeMOON SYMBOL
jWITH FACEeSHEQEL SIGNeTAI LUE DIGIT EIGHTsFIVEtOURsNINEsONEsSEVENtIXsTHREEtWOsZEROmLETTER FINAL BzD
zKzMzNzbGzVtHIGH BAyDAyFAyHAyKAzVAyLAyMAyNAzGAyPAzHAyQAySAzUAyTAzHAzSAyVAyXAzVAyYAtLOW BAxDAxFAxHA
xKAyVAxLAxMAxNAyGAxPAyHAxQAxSAyUAxTAyHAySAxVAxXAyVAxYAmSIGN LAEuVmTHAM DIGIT ONEnONE MARK-1w2
mVOWEL SIGN AAzYyEyYxExIIyYxOyAzYyYxUyEzYyUyYxVOWEL SHORTENERdA ABBREVIATION SIGNfCOMMAfDANDA
gIGIT EIGHTlFIVEmOURlNINElONElSEVENmIXlTHREEmWOlZEROgOUBLE COMMAmDANDAfGAP FILLERfINSERTION SIGN
fLETTER AnAnInUmBAnHAmCAnHAmDAnDAoHAnHAmEmGAnHAmHAmInImJAnHAmKAnHAmLAnHAmMAnHAmNAnGAoHAnHAnNAnYAoHA
mOmPAnHAmRAnHAmSAnHAnSAmTAnHAnTAoHAmUnUmVEDIC ANUSVARAnOCALIC LvLuRvRmWAmYAfOMfPLACEHOLDER MARK
fSANDHI MARKgIDDHIhGN ANUSVARAlVAGRAHAkCANDRABINDUkFINAL ANUSVARAkJIHVAMULIYAkNUKTAkUPADHMANIYA
kVIRAMAmSARGAfVOWEL SIGN AArIrUqEqIrIqOqUrUqVOCALIC LzLyRzRdLINE LEFTiRIGHTdSPAPERcXT LINEfPAGE
bIGHT WITH STARScNJAbKO COMBINING DOUBLE DOT ABOVEoLONG DESCENDING TONEtHIGH TONEtLOW TONE
tRISING TONEoNASALIZATION MARKoSHORT HIGH TONEuLOW TONEuRISING TONEhMAeDANTAYALANfIGIT EIGHTkFIVE
lOURkNINEkONEkSEVENlIXkTHREElWOkZEROfOROME SIGNeEXCLAMATION MARKeHIGH TONE APOSTROPHEeLAJANYALAN
fETTER AlBAlCHAlDAnGBASINNAlEmElFAlGBAlHAlIlJAmONA CHAqJAqRAlKAlLAlMAlNmAn WOLOSOmYAo WOLOSOlOmOlPA
lRAmRAlSAlTAlUlWAlYAfOW TONE APOSTROPHEeSYMBOL GBAKURUNENlOO DENNENeTAMAN SIGNbLbNBSPbO BICYCLES
eREAK HEREdENTRYi SIGNdMOBILE PHONESdONE UNDER EIGHTEEN SYMBOLdPEDESTRIANSeIRACYdSMOKING SYMBOL
c-BREAK SPACEcMINAL DIGIT SHAPESeSMA SIGNcN-BREAKING HYPHENePOTABLE WATER SYMBOLdFORKINGcR
dDIC MARK SIGNdMAL SUBGROUP OFs OR EQUAL TOdTH EAST AND SOUTH WEST ARROWmRROWq AND SOUTH EAST ARROW
rCROSSING NORTH WEST ARROWzbSOUTH EAST ARROWrWITH HOOKlBLACK ARROWlDOUBLE ARROWlPOINTING BUDuLEAF
uVINE LEAFlSANS-SERIF ARROWlTRIANGLE-HEADED ARROWzh TO BARlWHITE ARROWgINDIC FRACTION ONE EIGHTH
zHALFzQUARTERzSIXTEENTHvTHREE QUARTERSzcSIXTEENTHSmPLACEHOLDER MARKmQUANTITY MARKpRTER MARK
mRUPEE MARKgWEST AND SOUTH EAST ARROWmRROWq AND NORTH EAST ARROWrCROSSING NORTH EAST ARROWrTO CORNER
uLONG BARrWITH HOOKlBLACK ARROWlDOUBLE ARROWlPOINTING BUDuLEAFuVINE LEAFlSANS-SERIF ARROW
lTRIANGLE-HEADED ARROWzh TO BARlWHITE ARROWfEAST-POINTING AIRPLANEcSEcT A SUBSET OFiPERSET OF
fLMOST EQUAL TOfN ELEMENT OFfSYMPTOTICALLY EQUAL TOeCHECK MARKeEQUAL TOhIVALENT TOeGREATER-THAN
eIDENTICAL TOeLESS-THANeNORMAL SUBGROUP OFw OR EQUAL TOePARALLEL TOeSIGNfQUARE IMAGE OF OR EQUAL TO
lORIGINAL OF OR EQUAL TOeTILDEfRUEdCHED LEFT SEMICIRCLE WITH THREE DOTS
jOWER RIGHT-SHADOWED WHITE RIGHTWARDS ARROWiRIGHT SEMICIRCLE WITH THREE DOTS
iUPPER RIGHT-SHADOWED WHITE RIGHTWARDS ARROWdEe PADhGEeBOOKi WITH DECORATIVE COVERbULdL
cMBER EIGHTEEN FULL STOPiLEVEN FULL STOPhFIFTEEN FULL STOPiOURTEEN FULL STOPhNINETEEN FULL STOP
hSEVENTEEN FULL STOPiIGNjXTEEN FULL STOPhTEN FULL STOPiHIRTEEN FULL STOPiWELVE FULL STOP
kNTY FULL STOPdERO SIGNcSHU ITERATION MARKcT AND BOLTbYIAKENG PUACHUE HMONG CIRCLED CAxDIGIT EIGHT
zeFIVEzfOURzeNINEzeONEzeSEVENzfIXzeTHREEzfWOzeZEROxLETTER AzgAzfCAzfDAzgLAzfEzgEzfFAzfGAzfHAzhHzfI
zfKAzfLAzfMAzgLAzfNAzgCAzgKAzgPAzhLAzgQAzgRAzgTAzhSAzhXAzgYAzfOzgOzfPAzgLAzfQAzfRAzgRAzfSAzfTAzgSA
zgXAzfUzfVAzfWzfXAzgYAzfYAzfZAyOGOGRAM NYAJxSIGN FOR ANIMALzhINVERTEBRATEzhLOCATIONzhPERSONzhTHING
zdXW XWyYLLABLE LENGTHENERxTONE-BzdDzdGzdJzdMzdSzdVaOBJECT REPLACEMENT CHARACTER
cLIQUE ANGLE OPENING DOWNwUPiHYPHENcSERVER EYE SYMBOLbCR AMOUNT OF CHECKeBELT BUCKLEfOW TIE
fRANCH BANK IDENTIFICATIONeCHAIRfUSTOMER ACCOUNT NUMBEReDASHfOUBLE BACKSLASHeFORKeHOOKeINVERTED FORK
cTAGONAL SIGNdOPUSbDENbFFICE BUILDINGbGHAM FEATHER MARKgLETTER AILMnBEITHnCEIRToOLLnDAIRnEABHADH
pDHADHpMHANCHOLLnFEARNnGORTnIFINoODHADHnLUISnMUINnNGEADALoIONnONNoRnPEITHnRUISnSAILoTRAIFnTINNEnUATH
oILLEANNoRgREVERSED FEATHER MARKgSPACE MARKcONEKbHM SIGNbIL DRUMbK HAND SIGNbL CHIKI AHAD
jDIGIT EIGHTpFIVEqOURpNINEpONEpSEVENqIXpTHREEqWOpZEROjGAAHLAA TTUDDAAGjLETTER AAJsKsMsWrGrLrNGrTqEDD
rNrPrRRqIHrNYrRrSqLAsArErIrOrUqOBrHrTTrVqUCrDrNNrYjMU TTUDDAGl-GAAHLAA TTUDDAAGjPHAARKAA
kUNCTUATION DOUBLE MUCAADvMUCAADjRELAAcD CHINESE HOOK MARKmITERATION MARKeHUNGARIAN CAPITAL LETTER A
zfAzfKzfMBzfNDzeCLOSE EzeEzfBzfCzgHzgSzfDzfEzfFzfGzgYzfHzfJzfKzfLzgYzfMzgPzfNzgCzgTzh-SHAPED SIGNzgY
zfPzfRzfSzgZzfTzgYzfVzfZzgSzeIzfIzeNIKOLSBURG OEzpUEzeOzfEEzfOzeRUDIMENTA OEzoUEzeSHORT ERzeUzfNKzfS
zfUoNUMBER FIFTYxVEvONEy HUNDREDzTHOUSANDvTENoSMALL LETTER AzdAzdKzdMBzdNDzcCLOSE EzcEzdBzdCzeHzeS
zdDzdEzdFzdGzeYzdHzdJzdKzdLzeYzdMzePzdNzeCzeTzf-SHAPED SIGNzeYzdPzdRzdSzeZzdTzeYzdVzdZzeSzcIzdI
zcNIKOLSBURG OEznUEzcOzdEEzdOzcRUDIMENTA OEzmUEzcSHORT ERzcUzdNKzdSzdUeITALIC LETTER AsBEsCHEsDEsEtF
tKStLtMtNtRuStSuHuSsHEsItIsKAtEtHEtUsNORTHERN TSEsOsPEtHEsSHEtOUTHERN TSEsTEtHEsUtUsVEsYEsZE
lNUMERAL FIFTYvVEtONEtTENeKEYeNORTH ARABIAN LETTER AINzbLEFzBEHzDADzcLzES-1zd2zd3zFEHzGEEMzbHAINzHAH
zbEHzKAFzbHAHzLAMzMEEMzNOONzQAFzREHzSADzTAHzbEHzbHALzcEHzWAWzYEHzZAHzcINsNUMBER ONEzTENzbWENTY
ePERMIC LETTER ANsBURsCHERYsDOItZHOIuITAsEtFsGAIsHAsItAtEsKOKEsLEIsMENOEsNENOEsOtOsPEEIsREIsSHCHOOI
uOOItIIsTAItSIUsUsVERtOOIsYAuTtERvIvUtRYtUsZATAtHOIhSIAN NUMBER HUNDREDtONEtTENuWENTYvOmSIGN A
sURAMAZDAAzc-2zcHArBAtGAsUUMISHrCArDAtHYAAUSHzb-2sIsUrFArGAsUrHArIrJAsIrKAsUrLArMAsIsUrNAsUrPArRAsU
rSAsHAsSArTAsHAsUrUrVAsIrXAsSHAAYATHIYArYArZAmWORD DIVIDERiONAL COMPUTEReSOGDIAN FRACTION ONE HALF
mLETTER ALEPHvTERNATE AYINuYINtBETHtFINAL ALEPHzBETHzHEzNUNzd WITH VERTICAL TAILzSADHE
zf WITH VERTICAL TAILzTAWzd WITH VERTICAL TAILtGIMELtHEvTHtKAPHtLAMEDHtMEMtNUNtPEtRESH-AYIN-DALETH
tSADHEvMEKHuHINtTAWtWAWtYODHtZAYINnIGATURE AYIN-DALETHmNUMBER FIVEuOURtONEw HUNDREDtTENuHIRTYvREE
uWENTYvOgUTH ARABIAN LETTER ALEFzbYNzBETHzDALETHzbHADHEzdLETHzFEzGHAYNzbIMELzHEzcTHzKAPHzbHETH
zLAMEDHzMEMzNUNzQOPHzRESHzSADHEzcMEKHzcTzbHINzTAWzbETHzbHAWzcETHzWAWzYODHzZAYNsNUMBER FIFTYzONE
vERIC INDICATOReTURKIC LETTER ORKHON AzbBzbDzbEBzcDzcGzcKzcLzcNzcRzcSzcTzcYzbGzbLzbNzbQzbRzbSzcHzbT
zbYzBASHzECzbLTzbMzbNCzcGzcTzcYzbPzbSHzbZzIzbCzbQzOzbEzcKzbPzbQzbTsYENISEI AzcBzcDzcEzdBzdGzdKzdNzeG
zdTzdYzcGzcLzcNGzcQzcRzcSHzcTzcYzbEzcCzcNCzdTzdYzcSHzcZzbIzcQzbOEzdKzcQeUYGHUR COMBINING DOT ABOVE
zBELOWvTWO DOTS ABOVEzfBELOWlLETTER ALEPHsBETHsFINAL HETHsGIMEL-HETHsKAPHsLAMEDHtESHsMEMsNUNsPEsRESH
sSADHEuMEKHtHINsTAWsWAWsYODHsZAYINlPUNCTUATION BARxFOUR DOTSxTWO BARSzcDOTSdER ADULTgMANgWOMANcIVE
bM SYMBOLbN WITH EXCLAMATION MARK WITH LEFT RIGHT ARROW ABOVEcCOMING AUTOMOBILEjBUSjFIRE ENGINE
jPOLICE CARjTAXIcE BUTTON MOUSEeDOT LEADERiOVER TWO DOTS PUNCTUATIONd-PIECE SWIMSUITcIONbPEN BOOKhX
fCENTRE ASTERISKmBLACK STARmCROSSmTEARDROP-SPOKED ASTERISKfFILE FOLDERgOLDERfHANDS SIGNfLOCK
fMAILBOX WITH LOWERED FLAGsRAISED FLAGfSUBSEThPERSETe-CIRCUIT-OUTPUT H-TYPE SYMBOLuL-TYPE SYMBOL
fOUTLINED RIGHTWARDS ARROWdRATING SYSTEM COMMANDcHIUCHUScPOSITIONcTICAL DISCm ICONeON KEY
bR WITH DOT INSIDEcANGE BOOKhHEARTfUTANcIGINAL OFdYA AI LENGTH MARKhU LENGTH MARKgDIGIT EIGHTmFIVE
nOURmNINEmONEmSEVENnIXmTHREEnWOmZEROgFRACTION ONE EIGHTHtHALFtQUARTERtSIXTEENTHpTHREE QUARTERS
vSIXTEENTHSgISSHARgLETTER AoAoIoUnBAoHAnCAoHAnDAoDApHAoHAnEnGAoHAnHAnIoInJAoHAnKAoHAnLAoLAnMAnNAoGA
oNAoYAnOnPAoHAnRAoHAoRAnSAoHAoSAnTAoHAoTApHAnUoUnVAoOCALIC LwLvRwRnWAnYAoYAgSIGN ANUSVARAmVAGRAHA
lCANDRABINDUlNUKTAlOVERLINElVIRAMAnSARGAgVOWEL SIGN AAsIsUrErIsIrOrUsUrVOCALIC LzbLzRzbR
cNATE LEFT PARENTHESIShRIGHT PARENTHESIScTHODOX CROSSbSAGE CAPITAL LETTER AwHwIxNvBRAvCHAvDHAvEwHCHA
xKAxPAxTAySAwINvGHAvHAwYAvIvKAwHAwYAvLAvMAvNAvOwINvPAvSAwHAvTAwSAxHAvUvWAvZAwHAgSMALL LETTER AuHuIvN
tBRAtCHAtDHAtEuHCHAvKAvPAvTAwSAuINtGHAtHAuYAtItKAuHAuYAtLAtMAtNAtOuINtPAtSAuHAtTAuSAvHAtUtWAtZAuHAcC
cMANYA DIGIT EIGHToFIVEpOURoNINEoONEoSEVENpIXoTHREEpWOoZEROiLETTER AqAqLEFpBApCAYNpDEELqHApEqEpFApGA
pHApIpJApKAAFqHApLAANpMIINpNUUNpOqOpQAAFpRApSAqHIINpTApUpWAWpXApYAbTTER
dOMAN SIYAQ ALTERNATE NUMBER EIGHTzgFIVEzhOURzk HUNDREDzgNINEzgSEVENzhIXzj HUNDREDzgTENzj THOUSAND
zhHREEzhWOzj THOUSANDoFRACTION ONE HALFzcSIXTHoMARRATANoNUMBER EIGHTzb HUNDREDzcTHOUSANDzbY
zc THOUSANDvFIFTYzb THOUSANDxVEz HUNDREDzbTHOUSANDwORTYzb THOUSANDxURz HUNDREDzbTHOUSANDvNINE
z HUNDREDzbTHOUSANDzTYzc THOUSANDvONEy HUNDREDzTHOUSANDvSEVENzb HUNDREDzcTHOUSANDzbTYzd THOUSANDwIX
y HUNDREDzTHOUSANDyTYzb THOUSANDvTENy THOUSANDwHIRTYzc THOUSANDxREEzb HUNDREDzcTHOUSANDwWENTY
zc THOUSANDxOy HUNDREDzTHOUSANDbUNCE SIGNcTBOX TRAYdLINED BLACK STARjGREEK CROSSjLATIN CROSS
jWHITE STARbVERHEATED FACEeLAPhPING BLACK SQUARESmWHITE AND BLACK SQUARESsSQUARESfINEbWLbXbYSTER
aPACKAGEcDdDING CHARACTERcGEe FACING UPfWITH CIRCLED TEXTlURLeReSdODAcHAWH HMONG CLAN SIGN FAJxHAM
zWJxKHAByOOyWMxLAUJyISxMUASxPHABxTHOJySABzHEEJzWBxVAJyWJxXYOOJxYAJyEEGoONSONANT AUxCAUyHAUxHAUyLAU
yNAUxLAUxMAUxNAUyCHAUyKAUyLAUyTHAUzSAUxPLHAUxQHAUxRAUxVAUxXAUxYAUnDIGIT EIGHTtFIVEuOURtNINEtONE
tSEVENuIXtTHREEuWOtZEROnMARK CIM HOMwKESxHAVwSOxUAMwTAUMxUBnNUMBER HUNDRED MILLIONSzcSuMILLIONS
uTEN BILLIONSyTHOUSANDSxSvRILLIONSnSIGN AVsCIM CHEEMxUAM TSHOOJwHAIS LUS NTOG NTOGwNRES TOSwPUB DAWB
wTSOV ROGxXWVzb CHWVsHLItNUBsIB YAMsLOSsMEEJ SUABxTSEEBtUSsNQIGtTUJsTAUtHIRD-STAGE HLItXHEEJ CEEV
sVOS FEEMwLUBwNRUAwSEEVwTHIAByOMxSHAB CEEBsXAUStIABtYEEM FAIByNTXIVyRHOyTOVuOOsZWJ THAJnVOWEL KAABwV
vBvIBwVvUBwVvVvWBwVuEBvEBwVvVuIABwVvBvVuOBvOBwVvVuUABwVvBvVuWBvVcLLASdM BRANCHfDOWN HANDfTREE
fUP HANDeS UP TOGETHEReYRENE LEFT-POINTING FLEURONmTTER ALEPHsYINrBETHrDALETHrFINAL NUNrGIMELrHEtTH
rKAPHrLAMEDHrMEMrNUNrPErQOPHrRESHrSADHEtMEKHsHINrTAWsETHrWAWrYODHrZAYINkNUMBER FIVEsOURrONErTENsHREE
sWENTYtOkRIGHT-POINTING FLEURONcNCAKESdDA FACEcPERCLIPcRACHUTEeGRAPH SEPARATORjOSjUS MARKeLLEL TO
jWITH HORIZONTAL STROKEoTILDE OPERATORdENTHESIZED DIGIT EIGHTuFIVEvOURuNINEuONEuSEVENvIXuTHREEvWO
oHANGUL CHIEUCHzd AwIEUCzb AzcUvHIEUHzb AvIEUNGzb AvKHIEUKHzd AwIYEOKzc AvMIEUMzb AvNIEUNzb A
vPHIEUPHzd AwIEUPzb AvRIEULzb AvSIOSz AvTHIEUTHzd AwIKEUTzc AoIDEOGRAPH ALLIANCEyCALLzONGRATULATION
yEARTHzIGHTzNTERPRISEyFESTIVALzINANCIALzbREzbVEzOURyHAVEyLABORyMETALzOONyNAMEzINEyONEyREACHzbPRESENT
zbSOURCEzcTySELFzbVENzIXzOCIETYzPECIALzTOCKzbUDYzUNzbPERVISEyTENzHREEzWOyWATERzOOD
oKOREAN CHARACTER O HUzhJEONoLATIN CAPITAL LETTER AzkBzkCzkDzkEzkFzkGzkHzkIzkJzkKzkLzkMzkNzkOzkPzkQ
zkRzkSzkTzkUzkVzkWzkXzkYzkZuSMALL LETTER AziBziCziDziEziFziGziHziIziJziKziLziMziNziOziPziQziRziSziT
ziUziVziWziXziYziZoNUMBER EIGHTEENwLEVENvFIFTEENwOURTEENvNINETEENvSEVENTEENwIXTEENvTENwHIRTEENwWELVE
yNTYdROTdT ALTERNATION MARKeIAL DIFFERENTIALiLINE BACKWARDnDOWNnFORWARDnUPhLY-RECYCLED PAPER SYMBOL
eNERSHIP SIGNeY POPPERcSSED SYMBOLfNGER SHIPeIVE-PULL-DOWN-OUTPUT SYMBOLnUP-OUTPUT SYMBOL
ePORT CONTROLcU CIN HAU GLOTTAL STOPy FINALzVARIANTmLETTER AtBAtCAuHAtDAtEtFAuINAL KzLzMzNzbGzPzTzW
zYtGAtHAtIuAtKAuHAtLAtMAtNAuGAtOtPAuHAtRAtSAtTAuHAtUuAtVAtZAnOW-FALLING TONEzd FINALzeLONGzi FINAL
mMID-LEVEL TONEzb FINALzcLONG FINALmRISING TONEx FINALyLONGzd FINALmSANDHI GLOTTAL STOPzg FINALtTONE
x FINALyLONGzd FINALcW PRINTSbDFcIbEACE SYMBOLeHeOCKdNUTSdRcDESTRIANcN OVER STAMPED ENVELOPEdCIL
dGUINdSIVE FACEdTAGRAMcOPLE HUGGINGcR MILLE SIGNeSIGNeTEN THOUSAND SIGNdCENT SIGNdFORMING ARTS
dMANENT PAPER SIGNdPENDICULARn WITH SdSEVERING FACEeON BOWING DEEPLYhCLIMBINGhDOING CARTWHEEL
hFROWNINGhIN LOTUS POSITIONkSTEAMY ROOMhRAISING BOTH HANDS IN CELEBRATIONhWITH BALLnLOND HAIRmCROWN
mFOLDED HANDSmHEADSCARFmPOUTING FACEgAL COMPUTERePECTIVEcSETA SIGNdO SIGNcTRI DISH
bHAGS-PA DOUBLE HEAD MARKjLETTER ArLTERNATE YArSPIRATED FAqBAqCAsNDRABINDUrHAqDArDArZAqErEqFAqGArGA
qHAqIqJAqKArHAqLAqMAqNArGArNArYAqOqPArHAqQAqRAqSArHArMALL AqTArHArSAsHArTAsHAqUqVOICED HAvLESS SHA
qWAqXAqYAqZArHAjMARK DOUBLE SHADoSHADjSINGLE HEAD MARKkUBJOINED LETTER RAzbWAzbYAlPERFIXED LETTER RA
dISTOS DISC SIGN ARROWtBEEwHIVEuOOMERANGvWuULLS LEGtCAPTIVEvRPENTRY PLANEvTuHILDuLUBuOLUMNvMB
xINING OBLIQUE STROKEtDOLIUMvVEtEAGLEtFLUTEtGAUNTLETuRATERtHELMETuIDEuORNtLIDvLYtMANACLESvTTOCK
tOX BACKtPAPYRUSuEDESTRIANuLANE TREEvUMED HEADtRAMuOSETTEtSAWuHIELDwPuLINGuMALL AXEuTRAINER
tTATTOOED HEADuIARAuUNNYtVINEtWAVY BANDuOMANcILIPPINE DOUBLE PUNCTUATIONlSINGLE PUNCTUATION
cOENICIAN LETTER AINtLFsBETsDELTsGAMLsHEuTsKAFsLAMDsMEMsNUNsPEsQOFsROSHsSADEtEMKtHINsTAUtETsWAUsYOD
sZAIlNUMBER ONEv HUNDREDsTENtHREEtWENTYuOlWORD SEPARATORdLUSbICKeUP TRUCKcEcGd FACEeNOSEcLCROW SIGN
dE OF POOdLcNATAdCHED FINGERSfING HANDdE DECORATIONeAPPLEdWHEEL STARcSCESdTOLcTCHFORKj WITH TEE TOP
bLACARDeE OF INTEREST SIGNjWORSHIPdNCK CONSTANTp OVER TWO PIdYGROUND SLIDEeING CARD ACE OF CLUBS
uDIAMONDSuHEARTSuSPADESnBACKoLACK JOKERnEIGHT OF CLUBSwDIAMONDSwHEARTSwSPADESnFIVE OF CLUBSvDIAMONDS
vHEARTSvSPADESoOOLpUR OF CLUBSvDIAMONDSvHEARTSvSPADESnJACK OF CLUBSvDIAMONDSvHEARTSvSPADES
nKING OF CLUBSvDIAMONDSvHEARTSvSPADESoNIGHT OF CLUBSxDIAMONDSxHEARTSxSPADESnNINE OF CLUBSvDIAMONDS
vHEARTSvSPADESnQUEEN OF CLUBSwDIAMONDSwHEARTSwSPADESnRED JOKERnSEVEN OF CLUBSwDIAMONDSwHEARTSwSPADES
oIX OF CLUBSuDIAMONDSuHEARTSuSPADESnTEN OF CLUBSuDIAMONDSuHEARTSuSPADESoHREE OF CLUBSwDIAMONDS
wHEARTSwSPADESoRUMP-1u0u1u2u3u4u5u6u7u8u9t2u0u1t3t4t5t6t7t8t9oWO OF CLUBSuDIAMONDSuHEARTSuSPADES
nWHITE JOKERcDcUdNGERdS SIGNj ABOVE EQUALS SIGNkIN LEFT HALF CIRCLEnRIGHT HALF CIRCLEnTRIANGLE
kWITH BLACK TRIANGLEpCIRCUMFLEX ACCENT ABOVEpDOT BELOWpSMALL CIRCLE ABOVEqUBSCRIPT TWOpTILDE ABOVE
vBELOWe-MINUS SIGNdTOf FORM FIVEmOURlTHREEmWObMbOCKET CALCULATORcLICE CARkS REVOLVING LIGHThOFFICER
cODLEcP DIRECTIONAL FORMATTINGqISOLATEdCORNcRTABLE STEREOcSEIDONdITION INDICATORdTAL HORNhMARKl FACE
eBOXcT OF FOODdABLE WATER SYMBOLeTOdTED PLANTcUCHdLTRY LEGdND SIGNdRING LIQUIDdTING CAT FACEiFACE
cWER ON SYMBOLi-OFF SYMBOLgSLEEP SYMBOLhYMBOLbRAYER BEADScECEDESi ABOVE ALMOST EQUAL TOpEQUALS SIGN
pNOT ALMOST EQUAL TOtEQUAL TOpSINGLE-LINE EQUALS SIGNzcNOT EQUAL TOjBUT NOT EQUIVALENT TO
jOR EQUAL TOpIVALENT TOjUNDER RELATIONdGNANT MANjPERSONjWOMANdSCRIPTION TAKE
eENTATION FORM FOR VERTICAL COLONziMMAzgEM DASHzhN DASHzhXCLAMATION MARKzgHORIZONTAL ELLIPSIS
zgIDEOGRAPHIC COMMAzsFULL STOPzgLEFT ANGLE BRACKETzlBLACK LENTICULAR BRACKETzlCORNER BRACKET
zmURLY BRACKETzlDOUBLE ANGLE BRACKETzlPARENTHESISzlSQUARE BRACKETzlTORTOISE SHELL BRACKET
zlWHITE CORNER BRACKETzrLENTICULAR BRACKETzhOW LINEzgQUESTION MARKzgRIGHT ANGLE BRACKET
zmBLACK LENTICULAR BRACKETzmCORNER BRACKETznURLY BRACKETzmDOUBLE ANGLE BRACKETzmPARENTHESIS
zmSQUARE BRACKETzmTORTOISE SHELL BRACKETzmWHITE CORNER BRACKETzsLENTICULAR BRACKETzzhKCETzgSEMICOLON
zgTWO DOT LEADERzgWAVY LOW LINEdTZELdVIOUS PAGEcIMEdNCEgSSeT SCREEN SYMBOLfERh ICONdVACY MESSAGE
fTE USE ONEmTWOl-1m2cOBING CANEdHIBITED SIGNdJECTIVEdPERTY LINEeORTIONkAL TOdSERPINA
bSALTER PAHLAVI FOUR DOTS WITH CROSSzgDOTqLETTER ALEPHxBETHxDALETHxGIMELxHEzTHxKAPHxLAMEDHxMEM-QOPH
xNUNxPExSADHEzMEKHyHINxTAWxWAW-AYIN-RESHxYODHxZAYINqNUMBER FOURxONEzb HUNDREDxTENyHREEyWENTYzO
qSECTION MARKqTURNED SECTION MARKbU1c2cBLIC ADDRESS LOUDSPEAKERcNCTUATION SPACEgS ELEVATUS MARK
cRPLE HEARTdSEcSHPINcT LITTER IN ITS PLACE SYMBOLaQUADRANT LOWER LEFTpRIGHTjUPPER LEFT
t AND LOWER LEFT AND LOWER RIGHTzfRIGHTyUPPER RIGHT AND LOWER LEFTzvRIGHTpRIGHTu AND LOWER LEFT
zk AND LOWER RIGHTfUPLE INTEGRAL OPERATORkPRIMEdRTER NOTEdTERNION INTEGRAL OPERATOR
cESTION EXCLAMATION MARKjMARKiED EQUAL TOcINCUNXcOTATION MARKaRABBITg FACEcCCOONdING CARhMOTORCYCLE
cDICAL SYMBOL BOTTOMeOf BUTTONfACTIVE SIGNcILWAY CARiTRACKdNeBOWdSED BACK OF HANDhCOMMAhDOT
kTED INTERPOLATION MARKERhFISThHANDl WITH FINGERS SPLAYEDrPART BETWEEN MIDDLE AND RING FINGERS
hINTERPOLATION MARKERhMC SIGNiD SIGNiR SIGNhSQUAREcMcTdIOcZORbECEIPTdORD SEPARATORdREATIONAL VEHICLE
dYCLED PAPER SYMBOLgING SYMBOL FOR GENERIC MATERIALSvTYPE-1 PLASTICSzb2 PLASTICSzb3 PLASTICS
zb4 PLASTICSzb5 PLASTICSzb6 PLASTICSzb7 PLASTICScD APPLEeGIFT ENVELOPEcFERENCE MARK
cGIONAL INDICATOR SYMBOL LETTER AziBziCziDziEziFziGziHziIziJziKziLziMziNziOziPziQziRziSziTziUziVziW
ziXziYziZeSTERED SIGNcJANG CONSONANT SIGN HwNxGwRhLETTER AoBAoCAoDAoGAoHAoJAoKAoLAoMApBAoNApDApGAqGA
pYAqJAoPAoRAoSAoTAoWAoYAhSECTION MARKhVIRAMAiOWEL SIGN AItUsEtAtUsIsOsUcLIEVED FACEcMINDER RIBBON
cPLACEMENT CHARACTERcSPONSEdTRICTED LEFT ENTRY-1w2fOOMcTURN LEFThRIGHThSYMBOLcVERSE CHECKER BOARD
iINDEXiLIGHT FOUR POINTED PINWHEEL STARkNE FEEDiSOLIDUSp OPERATORqPRECEDING SUBSET
qWITH HORIZONTAL STROKEiTILDE OPERATOR ABOVE LEFTWARDS ARROWzeRIGHTWARDS ARROWhD ANGLE
o WITH UNDERBARjCOMMAjDOUBLE PRIMEv QUOTATION MARKqSTROKE NOT SIGNjEMPTY SETjFORKED PARAGRAPHOS
jHAND WITH MIDDLE FINGER EXTENDEDjNOT SIGNjPILCROW SIGNkRIMEjQUESTION MARK
jRAISED HAND WITH FINGERS SPLAYEDkIGHT ANGLEkOTATED FLORAL HEART BULLETjSANS-SERIF CAPITAL L
kEMICOLONjTHUMBS DOWN SIGNqUP SIGNkILDEo EQUALSkRIPLE PRIMEjVICTORY HANDdOLVING HEARTSbHINOCEROSbI
cAL SIGNcBBONg ARROW DOWN LEFTsRIGHTnLEFT DOWNsUPnRIGHT DOWNtUPnUP LEFTqRIGHTcCE BALLfCRACKERcFLE
cGHT AND LOWER ONE EIGHTH BLOCKkUPPER ONE EIGHTH BLOCKiGER BUBBLEjLEl BRACKETt WITH DOT
mDOTTED SUBSTITUTION MARKERmSUBSTITUTION MARKERmVARIANT WITH SQUAREmWITH ARCrDOWNWARDS ZIGZAG ARROW
hRC GREATER-THAN BRACKETiROW WITH CIRCLED PLUSrSMALL CIRCLEgBLACK LENTICULAR BRACKET
mTORTOISE SHELL BRACKETgCEILINGhORNER BRACKEThURLY BRACKETt LOWER HOOKuMIDDLE PIECEuUPPER HOOK
gDOTTED SUBSTITUTION BRACKETiUBLE ANGLE BRACKEToRROW WITH ROUNDED HEADnPARENTHESISnQUOTATION MARK
nWIGGLY FENCEgFISH TAILiVE EIGHTHS BLOCKhLOORgHALF BLACK CIRCLErSTARnOCKlFOLDERlMEDIUM SHADE
lRUNNING MANiND TELEPHONE RECEIVERgLOW PARAPHRASE BRACKETgNORMAL FACTOR SEMIDIRECT PRODUCT
gONE EIGHTH BLOCKkQUARTER BLOCKhPEN SQUARED DOThUTER JOINgPARENTHESISr EXTENSIONsLOWER HOOK
sUPPER HOOKgRAISED OMISSION BRACKETgS-SHAPED BAG DELIMITERhEMIDIRECT PRODUCTiVEN EIGHTHS BLOCK
hIDEWAYS U BRACKETiNGLE QUOTATION MARKhPEAKERn WITH ONE SOUND WAVEtTHREE SOUND WAVESjECH BUBBLE
hQUARE BRACKETu EXTENSIONvLOWER CORNERvUPPER CORNERvWITH DOUBLE STROKEzbQUILLzbSTROKE
zbTICK IN BOTTOM CORNERzjTOP CORNERzbUNDERBARhUBSTITUTION BRACKETgTACK
hHIRD WHITE RIGHT POINTING INDEXiOUGHT BUBBLEiREE EIGHTHS BLOCKmQUARTERS BLOCKhORTOISE SHELL BRACKET
hRANSPOSITION BRACKETiIANGLEo ABOVE LEFT TRIANGLEmULAR ONE QUARTER BLOCKgVERTICAL BAR WITH QUILL
qOX LINEgWHITE CORNER BRACKETnURLY BRACKETmLENTICULAR BRACKETmPARENTHESISmSQUARE BRACKET
mTORTOISE SHELL BRACKEThIGGLY FENCEf-FACING ARMENIAN ETERNITY SIGNnFISTnSVASTI SIGNy WITH DOTS
gHANDED INTERLACED PENTAGRAMgPOINTING ANGLE BRACKETpCURVED ANGLE BRACKETpDOUBLE ANGLE QUOTATION MARK
pMAGNIFYING GLASSgSHADED WHITE RIGHTWARDS ARROWhIDE ARC CLOCKWISE ARROWgTO-LEFT EMBEDDINGoISOLATE
oMARKoOVERRIDEfHAND INTERIOR PRODUCTfWARDS ARROWq ABOVE ALMOST EQUAL TOxREVERSE ALMOST EQUAL TO
zgTILDE OPERATORxSHORT LEFTWARDS ARROWxTILDE OPERATORsND UPPER AND LOWER ONE EIGHTH BLOCKrFROM BAR
z TO BLACK DIAMONDrOVER LEFTWARDS ARROWrTHROUGH GREATER-THANzSUPERSETzXsO BARvLACK DIAMOND
rWITH CORNER DOWNWARDSwDOTTED STEMyUBLE VERTICAL STROKEwEQUILATERAL ARROWHEADwHOOK
wLARGE TRIANGLE ARROWHEADxOOPwMEDIUM TRIANGLE ARROWHEADwNOTCHED TAILwPLUS BELOW
wSMALL EQUILATERAL ARROWHEADzdTRIANGLE ARROWHEADxTROKEwTAILzb WITH DOUBLE VERTICAL STROKE
zhVERTICAL STROKExIP DOWNWARDSzbUPWARDSwVERTICAL STROKEq-TAILlBACK-TILTED SHADOWED WHITE ARROW
mLACK ARROWrCIRCLED WHITE ARROWmOTTOM SHADED WHITE ARROWlCOMPRESSED ARROWlDASHED ARROWmOUBLE ARROW
x FROM BARyWITH STROKEzeVERTICAL STROKEx-TAILsDASH ARROWlFINGER-POST ARROW
mRONT-TILTED SHADOWED WHITE ARROWlHANDnRPOON OVER LEFTWARDS HARPOON
tWITH BARB DOWN ABOVE LEFTWARDS HARPOON WITH BARB DOWNzjBELOW LONG DASHzjFROM BARzjTO BARziWARDS
zeUP ABOVE LEFTWARDS HARPOON WITH BARB UPzoONG DASHznRIGHTWARDS HARPOON WITH BARB DOWNzhFROM BAR
zhTO BARzgWARDSmEAVY ARROWrCOMPRESSED ARROWlLEFT-SHADED WHITE ARROWlOPEN-HEADED ARROWlPAIRED ARROWS
lQUADRUPLE ARROWlRIGHT-SHADED WHITE ARROWmOCKETlSANS-SERIF ARROWmQUARED ARROWoIGGLE ARROW
lTOP SHADED WHITE ARROWmRIANGLE ARROWHEADt-HEADED ARROWzh OVER LEFTWARDS TRIANGLE-HEADED ARROW
ziTO BARziWITH BOLD SHAFTznDOUBLE HORIZONTAL STROKEzuVERTICAL STROKEznHEAVY SHAFT
znLONG TIP DOWNWARDSzwUPWARDSznMEDIUM SHAFTznNARROW SHAFTznVERY HEAVY SHAFTzcDASHED ARROW
zcPAIRED ARROWSoPLE ARROWsDASH ARROWmWO HEADED ARROWo-HEADED ARROW FROM BAR
zdWITH DOUBLE VERTICAL STROKEziTAILzm WITH DOUBLE VERTICAL STROKEzsVERTICAL STROKE
zjRIANGLE ARROWHEADSziVERTICAL STROKEwTRIPLE DASH ARROWlWAVE ARROWmHITE ARROWw FROM WALL
xWITHIN TRIANGLE ARROWHEADcNGe ABOVEfBUOYfEQUAL TOfIN EQUAL TOfOPERATORfPOINTeED PLANETeING BELL
cSING DIAGONAL CROSSING FALLING DIAGONALzSOUTH EAST ARROWbLEcIcMcObOASTED SWEET POTATOcBOT FACEcCK
eETcLL OF PAPEReED-UP NEWSPAPERfR COASTERhSKATEeING ON THE FLOOR LAUGHINGcMAN AS SIGNgCENTURIAL SIGN
gDENARIUS SIGNhIMIDIA SEXTULA SIGNhUPONDIUS SIGNgNUMERAL EIGHTpLEVENoFIFTYt EARLY FORMuTHOUSANDqVE
s HUNDREDtTHOUSANDpOURoNINEoONEr HUNDREDz THOUSANDsTHOUSANDzb C DoREVERSED ONE HUNDREDoSEVENpIX
r LATE FORMoTENr THOUSANDpHREEpWELVEqOgQUINARIUS SIGNgSEMUNCIA SIGNiSTERTIUS SIGNiXTANS SIGN
kULA SIGNhILIQUA SIGNgUNCIA SIGNcOSTERcSEeTTEcTATED CAPITAL QiFLORAL HEART BULLET
iHEAVY BLACK HEART BULLETiLIGHT FOUR POINTED BLACK CUSPiWHITE FOUR POINTED CUSPcUND PUSHPINgTARGET
fED SYMBOL FOR CAItFUtLUtSHOUvUANGXItXIcWBOATbSbUBLE SIGNcGBY FOOTBALLcLE-DELAYEDcMI DIGIT EIGHT
lFIVEmOURlNINElONElSEVENmIXlTHREEmWOfFRACTION ONE HALFsQUARTERsTHIRDoTWO THIRDSfNUMBER EIGHT HUNDRED
rYmFIFTYoVE HUNDREDnORTYoUR HUNDREDmNINE HUNDREDqTYmONE HUNDREDmSEVEN HUNDREDrTYnIX HUNDREDpTYmTEN
nHIRTYoREE HUNDREDnWENTYoO HUNDREDcNIC ARLAUG SYMBOLgBELGTHOR SYMBOLgCROSS PUNCTUATIONgLETTER AC A
oESCoLGIZ EOLHXoNSUZ AnBERKANAN BEORC BJARKAN BnCoALCoEALCpNoWEORTHnDoAGAZ DAEG DoOTTED-LuNuPnEoAR
oHWAZ EH EoNGoTHnFEHU FEOH FE FoRANKS CASKET ACzdESCzcEHzcISzcOSnGoARoEBO GYFU GpRnHAEGL HpGLAZ H
nICELANDIC-YRoNGqWAZoORoSAZ IS ISS IoWAZ EOHnJERAN JnKoAUN KrAnLAUKAZ LAGU LOGR LoONG-BRANCH-AR AE
zHAGALL HzMADR MzOSS OzYRnMANNAZ MAN MnNAUDIZ NYD NAUD NnOoEoNoOoPEN-PoS OoTHALAN ETHEL O
nPERTHO PEORTH PnQnRAIDO RAD REID RnSHpORT-TWIG-AR AyBJARKAN ByHAGALL HyMADR MyNAUD NyOSS OySOL S
yTYR TyYRoIGEL LONG-BRANCH-SOL SoOWILO SoTANnTHURISAZ THURS THORNoIWAZ TIR TYR TnURUZ UR UnVnW
oUNJO WYNN WnXnYoRnZgMULTIPLE PUNCTUATIONgSINGLE PUNCTUATIONgTVIMADUR SYMBOLdNEReING SHIRT WITH SASH
cPEE SIGNcSSIAN ASTROLOGICAL SYMBOL BINOVILEzdNOVILEzdQUINTILEzdSENTAGONzdTREDECILEzdVIGINTILE
aS IN TRIANGLEbAFETY PINhVESTcGITTARIUScILBOATcKE BOTTLE AND CUPcLT SHAKEReIREdUTING FACE
cMARITAN ABBREVIATION MARKkLETTER ALAFrBAAsITrDALATrFIrGAMANrINsTsYrKAAFrLABATrMIMrNUNrQUFrRISHrSHAN
sINGAATrTAAFsITsSAADIYrYUTrZENkMARK DAGESHpEPENTHETIC YUTpINr-ALAFpNEQUDAApOCCLUSION
lODIFIER LETTER EPENTHETIC YUTzbIzbSHORT AkPUNCTUATION AFSAAQxNGEDyNAAUxRKAANUxTMAAUwBAU
wMELODIC QITSAwNEQUDAAwQITSAwSHIYYAALAAxOF MASHFAATwTURUwZAEFxIQAAkVOWEL SIGN AwAvEvIvLONG AzcAzbE
zbIzbUvOwVERLONG AzgAvSHORT AwUKUNvUcNDWICHdS-SERIF HEAVY DOUBLE COMMA QUOTATION MARK ORNAMENT
yTURNED COMMA QUOTATION MARK ORNAMENTrLOW DOUBLE COMMA QUOTATION MARK ORNAMENTlINTERROBANG ORNAMENT
cRIcTELLITEj ANTENNAdURNcURASHTRA CONSONANT SIGN HAARUlDANDAmIGIT EIGHTrFIVEsOURrNINErONErSEVENsIX
rTHREEsWOrZEROmOUBLE DANDAlLETTER AtAtItUsBAtHAsCAtHAsDAtDAuHAtHAsEtEsGAtHAsHAsItIsJAtHAsKAtHAsLAtLA
sMAsNAtGAtNAtYAsOtOsPAtHAsRAsSAtHAtSAsTAtHAtTAuHAsUtUsVAtOCALIC LzcLzbRzcRsYAlSIGN ANUSVARA
qCANDRABINDUqVIRAMAsSARGAlVOWEL SIGN AAxIxUwExEwIxIwOxOwUxUwVOCALIC LzgLzfRzgReOPODcXOPHONEbCALESdRF
cHOOLg SATCHELcIcOOTERdRPIONgUScREENeWDRIVERdIPT CAPITAL BpEpFpHpIpLpMpPpRhLIGATURE ET ORNAMENT
hSMALL EnGnLnOdOLLdUPLEbEALdTcCOND PLACE MEDALdTION SIGNeORcDNAcE-NO-EVIL MONKEYdDLINGcGMENT
hED DIGIT EIGHTqFIVErOURqNINEqONEqSEVENrIXqTHREErWOqZEROcLFIEcMICOLON
eDIRECT PRODUCT WITH BOTTOM CLOSEDeSEXTILEcPARATED SYMBOLcRIOUS FACE WITH SYMBOLS COVERING MOUTH
dVICE MARKcSAME DOTdQUIQUADRATEcT MINUSeTRANSMIT STATEcWING NEEDLEcXTILEbGCbHADOWED WHITE CIRCLE
pLATIN CROSSpSTARdLLOW PAN OF FOODdMROCKdRADA ABBREVIATION SIGNiCONTINUATION SIGNiDANDAjIGIT EIGHT
oFIVEpOURoNINEoONEoSEVENpIXoTHREEpWOoZEROjOUBLE DANDAiEKAMjXTRA SHORT VOWEL MARKiHEADSTROKEiLETTER A
qAqIqUpBAqHApCAqHApDAqDArHAqHApEpGAqHApHApIqIpJAqHApKAqHApLAqLApMApNAqGAqNAqYApOpPAqHApRApSAqHAqSA
pTAqHAqTArHApUqUpVAqOCALIC LyLxRyRpYAiOMiSANDHI MARKjECTION MARK-1v2kPARATORjIGN ANUSVARAoVAGRAHA
nCANDRABINDUnINVERTED CANDRABINDUnJIHVAMULIYAnNUKTAnSIDDHAMnUPADHMANIYAnVIRAMApSARGAjUTRA MARK
iVOWEL MODIFIER MARKoSIGN AAuIuUtEtIuItOtPRISHTHAMATRA EtUuUtVOCALIC LzdLzcRzdReKdVED ICE
eIAN LETTER ADOqGEqHqIRqRErRAYqSHqWEpBIBpCHURCHpDEADpEARrTqGGqRRpFEEpGAGpHA-HAqUNGpIANqCEqFpJUDGE
pKICKpLOLLpMEASUREqIMEpNUNpOAKqILqNqOZEqRqUTpPEEPpROARpSOqUREpTHEYrIGHqOTpUPpVOWpWOErOLpYEArWpZOO
cEEPcIELDdFT INgOUTdNTO SHRINEdPcOCKED FACE WITH EXPLODING HEADdOTING STARdPPING BAGSjTROLLEY
dRT BACKSLANTED SOUTH ARROWhENT ARROW POINTING DOWNWARDS THEN NORTH EASTgDOWN TACKp WITH OVERBAR
gLEFT TACKgRIGHTWARDS ARROW ABOVE LEFTWARDS ARROWgSLANTED NORTH ARROWgUP TACKn ABOVE SHORT DOWN TACK
oWITH UNDERBARfCAKEfHAND FORMAT CONTINUING OVERLAPrDOWN STEPrLETTER OVERLAPrUP STEPfS
dULDERED OPEN BOXdWERcRIMPdUGcUFFLE PRODUCTcYbIcDDHAM DANDAjOUBLE DANDAiEND OF TEXT MARKiLETTER AqA
qIqLTERNATE UqUpBAqHApCAqHApDAqDArHAqHApEpGAqHApHApIqIpJAqHApKAqHApLApMApNAqGAqNAqYApOpPAqHApRApSA
qHAqSApTAqHArREE-CIRCLE ALTERNATE IqTArHAqWO-CIRCLE ALTERNATE IzmIpUqUpVAqOCALIC LyLxRyRpYA
iREPETITION MARK-1y2y3iSECTION MARK DOUBLE RINGzh WITH RAYSvWITH CIRCLES AND FOUR ENCLOSURESznRAYS
znTWO ENCLOSURESzbDOUBLE CRESCENTSzbQUADRUPLE CRESCENTSzbRAYS AND DOTTED CRESCENTSzrDOUBLE CRESCENTS
zrTRIPLE CRESCENTSzbSEPTUPLE CRESCENTSzbTRIDENT AND DOTTED CRESCENTSznU-SHAPED ORNAMENTS
zePLE CRESCENTSkPARATOR BARsDOTjIGN ANUSVARAnCANDRABINDUnNUKTAnSIDDHAMnVIRAMApSARGAiVOWEL SIGN AAuI
uLTERNATE UzfUuUtEtIuItOtUuUtVOCALIC RzdRdEWAYS BLACK DOWN POINTING INDEXpLEFT POINTING INDEX
pRIGHT POINTING INDEXpUP POINTING INDEXjWHITE DOWN POINTING INDEXpLEFT POINTING INDEX
pRIGHT POINTING INDEXpUP POINTING INDEXcGN OF THE HORNSeWRITING AIR BLOW SMALL ROTATIONSuING OUT
qSUCK SMALL ROTATIONSuING INmBREATH EXHALEtINHALEoUSH BETWEENsMULTIPLEsSINGLEmCHEEKS NEUTRALtPUFFED
tSUCKEDnOLONoMMAmDREAMY EYEBROWS DOWN NEUTRALzdNEUTRAL DOWNzlUPzdUP NEUTRALnYNAMIC ARROWHEAD LARGE
zfSMALLuEVERY OTHER TIMEuFASTuGRADUALuRELAXEDuSIMULTANEOUSzh ALTERNATINGvLOWuTENSEmEARSnXCITEMENT
nYE BLINK MULTIPLEwSINGLEqWINKpBROWS STRAIGHT DOWNzfNEUTRALzfUPpGAZE-FLOORPLANE CURVEDzgSTRAIGHT
zo ALTERNATINGzpDOUBLEuWALLPLANE CIRCLINGzgURVEDzfSTRAIGHTzn ALTERNATINGzoDOUBLEpLASHES DOWN
wFLUTTERINGwUPpS CLOSEDrHALF CLOSEDwOPENrOPENrSQUEEZEDrWIDE OPENvNING MOVEMENT
mFACE DIRECTION POSITION NOSE FORWARD TILTINGzqUP OR DOWNzzb TILTINGnILL MODIFIER-2zb3zb4zb5zb6oNGER
nLICK LARGE MULTIPLEySINGLEsSEQUENTIALtMALL MULTIPLEySINGLEoOORPLANE SHOULDER HIP MOVE
nOREHEAD CONTACTvNEUTRALvWRINKLEDnULL STOPmGRASP BETWEENsMULTIPLEsSINGLEmHAIRoND-ANGLEw INDEX
zd MIDDLE LITTLEzlRINGzeRING LITTLEzp OUTzeTHUMBzj INzkOUTxLITTLE INDEXzk THUMB INDEX THUMBzzd OUT
zfUPxMIDDLE RING LITTLEzq INzrOUTxRING DOWN MIDDLE THUMB INDEX CROSSzdLITTLErCIRCLEx INDEXze BENT
zfHINGEzfMIDDLEzl CROSS LITTLEzrEDzmLITTLEzmRINGzmTHUMBzfRING LITTLEyLITTLE INDEXzgUP
yMIDDLE RING LITTLEzr BENTzgUPyRING LITTLEsLAWv FOUR FINGERS CONJOINED
wINDEX THUMB CURVE THUMB INSIDEwMIDDLE RING LITTLE CONJOINEDzz SIDEwNO THUMBwTHUMB FORWARDzdSIDEsUP
u FIVE FINGERS SPREADzp OPENvINDEXzb RING LITTLEzcTHUMBzh OPENvMIDDLE RING LITTLEvNO THUMBvOPEN
z NO THUMBzbTHUMB FORWARDzhSIDEvTHUMB FORWARDzcSIDEtRLICUEz INDEX RING LITTLE ON
zbMIDDLE RING LITTLE ONzbOPENrFISTv FOUR FINGERS CONJOINED BENTwHEELwINDEXzc BENTzh OVER MIDDLE
zdCUPPEDzdHINGEDzj LOWzkMIDDLE UPzt THUMB SIDEzdMIDDLEzj BENTzo THUMB STRAIGHTzkCONJOINEDzt CUPPED
zzb THUMB FORWARDzuHINGEDzzb THUMB SIDEzuINDEX BENTzuMIDDLE BENTzuTHUMB FORWARDzzbSIDEzzf BENT
zzgCONJOINEDzlROSS LITTLEzpEDzr THUMB SIDEzkHINGEDzq SPREAD THUMB SIDEzkLITTLEzkRAISED KNUCKLESzlING
zo BENTzpCONJOINEDzkSTRAIGHT THUMB BENTzkTHUMBzp ANGLEDzw OUTzqBENTzqCIRCLEDzrONJOINED HINGEDzrUPPED
zqHINGEDzrOOKEDzkUP SPREAD THUMB FORWARDzdRAISED KNUCKLEzeING LITTLEzdTHUMB ANGLED IN MIDDLE UP
zqOUT MIDDLE UPzjCIRCLEzpD MIDDLE UPzkUPPED MIDDLE UPzlRLICUEzmVE THUMB INSIDEzvUNDER
zjFORWARD INDEX BENTzxSTRAIGHTzjHOOKznED MIDDLE HINGEDzxUPzjSIDEzn BOTH BENTzoINDEX BENTzuHINGE
zoTHUMB BENTzuCONJOINEDzuDIAGONALzdUP MIDDLE HINGEDzt THUMB CONJOINEDzzbSIDEwLITTLE BENTzeDOWN
zi OTHERS CIRCLEDzjRIPPLE CURVEDzqSTRAIGHTzeINDEXzj THUMBzeRAISED KNUCKLEzeTHUMBzfOUCHES THUMBzeUP
wMIDDLE BENT OVER INDEXzeDOWNzeLITTLEzeRAISED KNUCKLEzfING LITTLEzeTHUMB ANGLED INDEX UP
zrOUT INDEX CROSSEDzzcUPzkCIRCLED INDEX HINGEDzyUPzlUPPED INDEX UPzkHOOKED INDEX UPzkLITTLEzeUP
zg THUMB SIDEwRING DOWNzcINDEXzcLITTLEzcMIDDLEzi CONJOINEDzjRAISED KNUCKLESzcRAISED KNUCKLEzcTHUMB
zcUPwTHUMBzc BETWEEN INDEX MIDDLEzx STRAIGHTzlMIDDLE RINGzlRING LITTLEzdFORWARDzdHEEL
zdOVER FOUR RAISED KNUCKLESziTWO FINGERSzdSIDE BENTziCONJOINEDziDIAGONALzdUNDER FOUR FINGERS
zjINDEX BENTzjLITTLE UPzjTHREE FINGERSzkWO FINGERSsLATv BETWEEN PALM FACINGSwFIVE FINGERS SPREAD
zq BENTzrFOUR BENTzrHINGEDzx NO THUMBzyTHUMB SIDEzrTHUMB FORWARDxOUR FINGERSzj BENTzkCONJOINED
zt SPLITzkHINGEDwHEELzb FIVE FINGERS SPREADzv BENTzwFOUR BENTzcTHUMB SIDEwSPLIT CENTREzj THUMB SIDE
zu BENTzdINDEX THUMB SIDEzdLITTLEwTHUMB BENTzdFORWARDzdSIDErHINGEw FIVE FINGERS SPREAD OPEN
yOUR FINGERS CONJOINEDxINDEXzd HINGEDzeMIDDLE LITTLEzlRINGzp CONJOINEDzeRING LITTLEzeTHUMBzj LARGE
zkOPENzkSIDEzlMALLxLITTLEze INDEXzk THUMBzfTHUMBxMIDDLEze RING LITTLExNO THUMBxOPENzc NO THUMB
zdTHUMB FORWARDzjSIDExRINGzc DOWN INDEX THUMB HOOK MIDDLExSMALLxTHUMB BETWEEN MIDDLE RINGzeSIDE
zi TOUCHING INDEXsOOKv CURLICUEwINDEX RING LITTLE INzpOUTzpUNDERwMIDDLE RING LITTLE CONJOINEDzz IN
zzbOUTzeTHUMBwRING THUMBrOVALv FIVE FINGERS SPREADwINDEXwLITTLE UPwNO THUMBwRING LITTLE
wTHUMB FORWARDzdSIDEnEADq MOVEMENT CIRCLEz-FLOORPLANE CURVEzmSTRAIGHTzbWALLPLANE CURVEzlSTRAIGHT
zlTILTrRIMmLIMB COMBINATIONrLENGTH-1y2y3y4y5y6y7oP LOWER OVER UPPERqUPPER OVER LOWER
pS PRESSED TOGETHERnOCATION DEPTHvHEAD NECKxIGHTvLIMBS DIGITSvTORSOvWIDTHu-FLOORPLANE SPACE
vWALLPLANE SPACEmMOUTH CLOSED CONTACTzFORWARDzNEUTRALtORNERSsFROWNx OPENyWRINKLEDsKISSw FORWARD
xWRINKLEDsOPEN CIRCLExFORWARDxOVALzc WRINKLEDzdYAWNxRECTANGLEzh WRINKLEDziYAWNxWRINKLEDsSMILEx OPEN
yWRINKLEDsTENSEx FORWARDySUCKEDsWRINKLES DOUBLEzcSINGLEoVEMENT-DIAGONAL AWAY LARGEzpSTzkMEDIUM
zkSMALLzfBETWEEN AWAY LARGEzxSTzsMEDIUMzsSMALLznTOWARDS LARGEzzbSTzvMEDIUMzvSMALLzfTOWARDS LARGEzsST
znMEDIUMznSMALLvFLOORPLANE ARM CIRCLE HITTING WALL LARGE DOUBLEzzmSINGLEzzgMEDIUM DOUBLEzznSINGLE
zzgSMALL DOUBLEzzmSINGLEzhBENDziOX LARGEzlMEDIUMzlSMALLzhCHECKziORNER LARGEzoMEDIUMzoSMALLziROSS
ziURVE COMBINEDznHITTING CEILING LARGEzzeSMALLzvFLOOR LARGEzzcSMALLznLARGEzsSTznMEDIUMznSMALL
zhDOUBLE ALTERNATINGzz WRIST FLEXzoSTRAIGHTzoWRIST FLEXzhFINGER CIRCLES HITTING WALL DOUBLEzzkSINGLE
zpONTACTzhHUMP HITTING CEILING LARGE DOUBLEzzjTRIPLEzzdSMALL DOUBLEzzjTRIPLEzuFLOOR LARGE DOUBLE
zzbSMALL DOUBLEzzbTRIPLE LARGE TRIPLEzziSMALL TRIPLEzmSMALLzhJAWzhLOOP HITTING CEILING LARGE DOUBLE
zzjSINGLEzzdSMALL DOUBLEzzjSINGLEzuFLOOR LARGE DOUBLEzzhSINGLEzzbSMALL DOUBLEzzhSINGLEzmSMALL
zhPEAKS LARGEznMEDIUMznSMALLzhSHAKING PARALLELziINGLE STRAIGHT LARGEzzdSTzxMEDIUMzxSMALLzoWRIST FLEX
zhTRIPLE ALTERNATING MOVEMENTzzbWRIST FLEXzoSTRAIGHT MOVEMENTzoWRIST FLEX
zhWAVE HITTING CEILING LARGEzzdSMALLzuFLOOR LARGEzzbSMALLzmLARGEzmSMALLznNAKE
ziRIST CIRCLE HITTING WALL DOUBLEzziSINGLEzhZIGZAG LARGEzoMEDIUMzoSMALLvHINGE DOWN SEQUENTIAL
zcSIDE TO SIDE SCISSORSzcUP DOWN ALTERNATING LARGEzwSMALLzkLARGEzkSMALLzfSEQUENTIAL
vWALLPLANE ARM CIRCLE MEDIUM DOUBLEzySINGLEzrSMALL DOUBLEzxSINGLEzgBEND LARGEzlMEDIUMzlSMALL
zhOX LARGEzkMEDIUMzkSMALLzgCHECK LARGEzmMEDIUMzmSMALLzhORNER LARGEznMEDIUMznROTATIONznSMALLzhROSS
zhURVE HALF-CIRCLE LARGEzzeSTzyMEDIUMzySMALLznITTING CHESTzuFRONT WALLzmQUARTER LARGEzzSTzuMEDIUM
zuSMALLzmTHEN STRAIGHTzoREE-QUARTER CIRCLE MEDIUMzziSMALLzlD CROSS MEDIUMztSMALLzgDOUBLE ALTERNATING
zy WRIST FLEXznSTRAIGHTznWRIST FLEXzgFINGER CIRCLES DOUBLEzvSINGLEzoONTACTzgHUMP HITTING CHEST
ztFRONT WALLzlLARGEzlMEDIUMzlSMALLzgJAWzgLOOP HITTING CHESTztFRONT WALLzlLARGEzlMEDIUMzlSMALL
zq DOUBLEzgPEAKS LARGEzmMEDIUMzmSMALLzgSHAKINGzhINGLE STRAIGHT LARGEzzcSTzwMEDIUMzwSMALLznWRIST FLEX
zgTRIPLE ALTERNATINGzy WRIST FLEXznSTRAIGHT MOVEMENTznWRIST FLEXzgWAVE CURVE DOUBLE LARGEzyMEDIUM
zySMALLzrTRIPLE LARGEzyMEDIUMzySMALLzlDIAGONAL PATH LARGEzzMEDIUMzzSMALLzlHITTING CHESTztFRONT WALL
zhRIST CIRCLE FRONT DOUBLEzzSINGLEzgZIGZAG LARGEznMEDIUMznSMALLmNECKnOSE CONTACTrNEUTRALrWIGGLES
sRINKLESmPARENTHESISmROTATION MODIFIER-10zg1zg2zg3zg4zg5zg6zf2zf3zf4zf5zf6zf7zf8zf9
u-FLOORPLANE ALTERNATINGzs HITTING CEILINGzzcFLOORzhDOUBLEzn HITTING CEILINGzwFLOORzhSINGLE
zn HITTING CEILINGzwFLOORvWALLPLANE ALTERNATEzoING HITTING CHESTzzbFRONT WALLzgDOUBLE
zm HITTING CHESTzvFRONT WALLzgSINGLEzm HITTING CHESTzvFRONT WALLnUB BETWEENqMULTIPLEqSINGLE
mSEMICOLONnHOULDER HIP POSITIONSzSPINEvTILTING FROM WAISTnQUEEZE FLICK ALTERNATINGuLARGE MULTIPLE
zbSINGLEuSEQUENTIALvMALL MULTIPLEzbSINGLEnTRIKE BETWEENtMULTIPLEtSINGLEnURFACE BETWEENuSYMBOLSmTEETH
r BITE LIPSsMOVEMENTsON LIPSz MOVEMENTvTONGUEzc MOVEMENToNSE CHEEKS HIGHzLOWzMIDDLE
nONGUE CENTRE INSIDE MOUTHzbSTICKING OUTtINSIDE MOUTH RELAXEDtLICKING LIPStMOVES AGAINST CHEEK
tSTICKING OUT FARtTIP BETWEEN LIPSxTOUCHING INSIDE MOUTHoRSO-FLOORPLANE TWISTING
sWALLPLANE CURVED BENDzdSTRAIGHT STRETCHoUCH BETWEENsMULTIPLEsSINGLE
nRAVEL-FLOORPLANE ROTATION-FLOORPLANE ALTERNATINGzzDOUBLEzzSINGLEzoWALLPLANE ALTERNATINGzyDOUBLE
zySINGLEzfSHAKINGtWALLPLANE ARM SPIRAL DOUBLEzpSINGLEzpTRIPLEzeROTATION-FLOORPLANE ALTERNATING
zyDOUBLEzySINGLEznWALLPLANE ALTERNATINGzxDOUBLEzxSINGLEzeSHAKINGmUPPER BODY TILTING FROM HIP JOINTS
mWALLPLANE SHOULDER HIP MOVEcLHOUETTE OF JAPANcMILAR ABOVE GREATER-THAN ABOVE EQUALS SIGN
oLESS-THAN ABOVE EQUALS SIGNiMINUS SIMILARiOR GREATER-THANlLESS-THANcNE WAVE
dGLE CHARACTER INTRODUCERhGRAPHIC CHARACTER INTRODUCERhHIGH-REVERSED-9 QUOTATION MARK
hLEFT-POINTING ANGLE QUOTATION MARKiOW-9 QUOTATION MARKhRIGHT-POINTING ANGLE QUOTATION MARK
hSHIFT THREEoWOg-SHIFT-2n3dHALA ARCHAIC DIGIT EIGHTwFIVExOURwNINEwONEwSEVENxIXwTHREExWO
qNUMBER EIGHTYxFIFTYyORTYxNINETYxONE HUNDREDzcTHOUSANDxSEVENTYyIXTYxTENyHIRTYyWENTYiLETTER AAYANNA
qEEYANNArYANNAqIYANNAqLPAPRAANA BAYANNAzbCAYANNAzbDAYANNAzcDAYANNAzbGAYANNAzbJAYANNAzbKAYANNA
zbPAYANNAzbTAYANNAzcTAYANNAqMBA BAYANNAqUYANNAqYANNApDANTAJA LAYANNAxNAYANNAxSAYANNApEEYANNAqYANNA
pFAYANNApHAYANNApIIYANNAqLUUYANNAsYANNAqRUUYANNAsYANNAqYANNApKANTAJA NAASIKYAYApMAHAAPRAANA BAYANNA
zcCAYANNAzcDAYANNAzdDAYANNAzcGAYANNAzcJAYANNAzcKAYANNAzcPAYANNAzcTAYANNAzdTAYANNArYANNA
qUURDHAJA LAYANNAzNAYANNAzSAYANNApOOYANNAqYANNApRAYANNApSANYAKA DAYANNAyDAYANNAxGAYANNAxJAYANNA
pTAALUJA NAASIKYAYAxSANYOOGA NAAKSIKYAYAzYANNApUUYANNAqYANNApVAYANNApYAYANNAjITH DIGIT EIGHTtFIVE
uOURtNINEtONEtSEVENuIXtTHREEuWOtZEROiPUNCTUATION KUNDDALIYAiSIGN AL-LAKUNAoNUSVARAYAnCANDRABINDU
nVISARGAYAiVOWEL SIGN AELA-PILLAtDIGA AEDA-PILLAyGAETTA-PILLAzbYANUKITTAyIS-PILLAyKOMBUVAyPAA-PILLA
tGAETTA-PILLAvYANUKITTAtKETTI AEDA-PILLAzIS-PILLAzPAA-PILLAuOMBU DEKAyVAzb HAA AELA-PILLA
zgDIGA AELA-PILLAzgGAYANUKITTAcX PETALLED BLACK AND WHITE FLORETTEfOINTED BLACK STARmPINWHEEL STAR
mSTAR WITH MIDDLE DOTd-PER-EM SPACEdTEEN POINTED ASTERISKbKATEBOARDcI AND SKI BOOTdERcULL
f AND CROSSBONESdNKbLANTED EQUAL TO OR GREATER-THANzh WITH DOT INSIDEuLESS-THANze WITH DOT INSIDE
iNORTH ARROW WITH HOOKED HEADzcRIZONTAL TAILdVONIC ASTERISKcEDdEPING ACCOMMODATIONjFACEjSYMBOL
fY FACEdUTH OR SPYcICE OF PIZZAdGHTLY FROWNING FACEjSMILING FACEcOPEeING LARGE ANDoORdT MACHINEeH
bMALL AIRPLANEhMPERSANDhSTERISKgBLUE DIAMONDgCOLONiMMAkERCIAL ATiNTAINS AS MEMBERpWITH OVERBAR
uVERTICAL BAR AT END OF HORIZONTAL STROKEgDOLLAR SIGNgELEMENT OFq WITH OVERBAR
wVERTICAL BAR AT END OF HORIZONTAL STROKEhM DASHhQUALS SIGNhXCLAMATION MARKgFULL STOP
gGREATER-THAN SIGNgHYPHEN-MINUSgIDEOGRAPHIC COMMAgLEFT CURLY BRACKETlPARENTHESIS
lTORTOISE SHELL BRACKETiSS-THAN SIGNgNUMBER SIGNgORANGE DIAMONDgPERCENT SIGNhLUS SIGNgQUESTION MARK
gREVERSE SOLIDUShIGHT CURLY BRACKETmPARENTHESISmTORTOISE SHELL BRACKEThOMAN NUMERAL EIGHTvLEVEN
uFIFTYwVEy HUNDREDvOURuNINEuONEx HUNDREDyTHOUSANDuSEVENvIXuTENvHREEvWELVEwOgSEMICOLONgTILDE
hWO DOTS OVER ONE DOT PUNCTUATIONgVEE WITH UNDERBARfER THANm OR EQUAL TOdSH PRODUCTcILE
eING CAT FACE WITH HEART-SHAPED EYESwOPEN MOUTHiFACE WITH HALOtEART-SHAPED EYEStORNSsOPEN MOUTH
zd AND COLD SWEATziSMILING EYESziTIGHTLY-CLOSED EYESsSMILING EYESzf AND HAND COVERING MOUTH
zkTHREE HEARTStUNGLASSESsTEARdRKING FACEcOKING SYMBOLbNAILdKEcEEZING FACEcOW CAPPED MOUNTAINeBOARDER
eFLAKEeMANh WITHOUT SNOWbOcCCER BALLdKScFT HYPHENfICE CREAMfSHELL FLOPPY DISKeBALL
eWARE-FUNCTION SYMBOLcGDIAN COMBINING CURVE ABOVEyBELOWsDOT ABOVEwBELOWsHOOK ABOVExBELOW
sLONG HOOK BELOWsRESH BELOWsSTROKE BELOWsTWO DOTS ABOVEzcBELOWiINDEPENDENT SHINiLETTER ALEPHqYIN
pBETHpFETHpGIMELpHErTHpKAPHpLAMEDHqESHpMEMpNUNpPEpRESH-AYINpSADHErMEKHqHINpTAWpWAWpYODHpZAYIN
iNUMBER ONEs HUNDREDpTENqWENTYiPUNCTUATION CIRCLE WITH DOTuHALF CIRCLE WITH DOT
uTWO CIRCLES WITH DOTSyVERTICAL BARSzm WITH DOTScHcLID QUILT SQUARE ORNAMENTzc IN BLACK SQUAREfUS
h WITH OVERBARcM SIGNcON WITH RIGHTWARDS ARROW ABOVEcRA SOMPENG DIGIT EIGHTtFIVEuOURtNINEtONEtSEVEN
uIXtTHREEuWOtZEROnLETTER AHuBAHuCAHuDAHuEEHvHuGAHuHAHuIHuJAHuKAHuLAHuMAEwHuNAHvGAHvYAHuOHuPAHuRAH
uSAHuTAHuUHuVAHuYAHcScUND RECORDING COPYRIGHTdTH EAST ARROWq AND SOUTH WEST ARROW
rCROSSING NORTH EAST ARROWrTO CORNERrWITH HOOKlBLACK ARROWlDOUBLE ARROWlPOINTING BUDuLEAFuVINE LEAF
lSANS-SERIF ARROWlTRIANGLE-HEADED ARROWzh TO BARlWHITE ARROWgWEST ARROWq AND NORTH WEST ARROW
rWITH HOOKlBLACK ARROWlDOUBLE ARROWlPOINTING BUDuLEAFuVINE LEAFlSANS-SERIF ARROW
lTRIANGLE-HEADED ARROWzh TO BARlWHITE ARROWcYOMBO CLUSTER-INITIAL LETTER LAzgRAzgSAzhHA
iFINAL CONSONANT SIGN -AzeBzeDzeGzeKzeLzeMzeNzfGzeRzeSzfHiGEMINATION MARK
iHEAD MARK WITH MOON AND SUNzk AND FLAMEzpTRIPLE FLAMEiLETTER -ApApBAqHApCAqHApDAqDArHAqHAqZApGAqHA
pHApJAqHApKAqHAqSSApLApMApNAqGAqNAqYApPAqHApRApSAqHAqSApTAqHAqSArHAqTArHApVApYApZAqHA
iMARK DOUBLE SHADnPLUTAnSHADnTSHEGiSIGN ANUSVARAnJIHVAMULIYAnUPADHMANIYAnVISARGAjUBJOINER
iTERMINAL MARK-1w2iVOWEL LENGTH MARKoSIGN AIuUtEtItOuEtUuEtVOCALIC LzcRbPcAdCEdGHETTIdRKLEhS
gING HEARTcEAK-NO-EVIL MONKEYfERh WITH CANCELLATION STROKEnONE SOUND WAVEnTHREE SOUND WAVES
fING HEAD IN SILHOUETTEdECH BALLOONeDBOATdSMILO SIGNcHERICAL ANGLEp OPENING LEFTyUPcIDERg WEB
dRAL CALENDAR PADhNOTE PADhSHELLcLASHING SWEAT SYMBOLcONGEdOL OF THREADeNdRTS MEDALdUTING WHALE
bQUARE A OVER MiARUiMiNPEAiPAATOiRUHUAiUhBAARERUjRiEETAiIRUiORUTOiQiUSSYERUhC OVER KGiALjPiCiDiM
j CUBEDkSQUAREDiOjRPORATIONiUPhDAjASUiBiESIiJiLiMj CUBEDkSQUAREDiORUhEEKAAiRA NAME HEISEIqMEIZI
qREIWAqSYOUWAqTAISYOUjGiSUKUUDOiVhFMiOOTjUR CORNERShGALjNMAjRONiBiHZiIGAjNIIjRUDAAiPAiURAMUnTONiYhHA
jITUiEKUTAARUjRUTUiGiIRAGANA HOKAiONjONkRUiPjAiUARADDOjIITOjRANiZhIMAGE OFp OR EQUAL TOtNOT EQUAL TO
iNjINGUjTIiUhK OHMiAjIRIjRATTOkORIIiBiCALiEESUiGiHZiIROlGURAMUlMEETORUlWATTOiKiLiMj CAPITALlUBED
kSQUAREDiOOPOjRUNAiPAiTiUROONEkUZEIROiViWiYURIIhLEFT OPEN BOX OPERATORiMiNiOGjZENGEiXhM CUBEDjOHM
kVER Sp SQUAREDjSQUAREDiAjHHAjIKUROkRUjNSYONjRUKUiBj SMALLiEETORUjGAlTONiGiHZiIKURONjLjRIlBAARUiLiM
j CUBEDkSQUAREDiOLiPAiSiU AkFkGkLkMkSkVkWiVj MEGAiWj MEGAhNAjNOiFiMiOTTOiSiViWhONSUiOMUiRIGINAL OF
s OR EQUAL TOwNOT EQUAL TOiVhPAj AMPSjASENTOkTUiCiEEZIjNIHIkSUjSOiFiHiIASUTORUjKOkURUiMiOINTOjNDO
jSITION INDICATORiPMiRiSiViWhRADk OVER Sr SQUAREDiEMUjNTOGENiIGHT OPEN BOX OPERATORjRAjTTORUiOOT
iUPIIjUBURUhSAIKURUjNTIIMUiENTIlOiIRINGUiRiVhTARGETiHZiONhUONhV OVER MhWATTOiBiITH BOTTOM HALF BLACK
mCONTOURED OUTLINEmDIAGONAL CROSSHATCH FILLmHORIZONTAL FILLmLEFT HALF BLACK
nOWER LEFT DIAGONAL HALF BLACKsRIGHT DIAGONAL HALF BLACKmORTHOGONAL CROSSHATCH FILLmRIGHT HALF BLACK
mTOP HALF BLACKmUPPER LEFT DIAGONAL HALF BLACKxTO LOWER RIGHT FILLsRIGHT DIAGONAL HALF BLACK
yTO LOWER LEFT FILLmVERTICAL FILLhYAADOkRUiUANgD ASTERISKiCJK UNIFIED IDEOGRAPH-4E00zi9zh2Dzh8CzhA4
zf518Dzg21Dzh4Dzh72zg3CCzhF3zg408zh39zg5B6zg8F0zg91Azh29zgB57zgDE6zgF8Czf624Bzh53zh95zg307zh55zg599
zhB0zg620zg708zi9zgE80zgF14zf7121zg51Fzh33zg981zgA7AzgD42zf89E3zgCA9zgD70zf904Azg14DjLjOOL
iDOT OPERATORiEIGHT KiFALLING DIAGONAL SLASHjIVE POINT ONEjOUR DOT PUNCTUATIONnKjREEiHCjDRjI-RESjV
iIDiKATAKANA DErKOKOrSAjEYiLATIN CAPITAL LETTER AzeBzeCzeDzeEzeFzeGzeHzeIzeJzeKzeLzeMzeNzeOzePzeQzeR
zeSzeTzeUzeVzeWzeXzeYzeZoSMALL LETTER DjOGICAL ANDqORkSSLESSiMINUSjViNEWjGiOKjNE HUNDRED TWENTY P
iPLUSjPViRISING DIAGONAL SLASHiSALTIREjDjECOND SCREENkVEN POINT ONEjHVjIXTY PjMALL CIRCLEjOSjQUAREjS
iTHREE DjIMESjWENTY-TWO POINT TWOkO KiUHDjP WITH EXCLAMATION MARKiVODjSiWCeT BLACK RIGHTWARDS ARROW
dIDbS2c3cAbTcADIUMdFF OF AESCULAPIUSjHERMESdMPED ENVELOPEdNDING PERSONdR AND CRESCENTfEQUALS
fOF DAVIDgPERATORfWITH LEFT HALF BLACKkRIGHT HALF BLACKeT OF GUARDED AREAjHEADINGjPROTECTED AREA
jSELECTED AREAkTRINGjTEXTdTIONeUE OF LIBERTYcEAM LOCOMOTIVEfING BOWLdNOGRAPHIC FULL STOPdTHOSCOPE
cICK FIGUREm LEANING LEFTvRIGHTnWITH ARMS RAISEDsDRESScOCK CHARTdPWATCHcRAIGHT RULERiNESSeWBERRY
dESS OUTLINED WHITE STARdICTLY EQUIVALENT TOeNG TERMINATORcScUDIO MICROPHONEdFFED FLATBREADdPAcXbUB
dSCRIPT EIGHTlQUALS SIGNkFIVElOURkLEFT PARENTHESISkMINUSkNINEkONEkPLUS SIGNkRIGHT PARENTHESISkSEVEN
lIXkTHREElWOkZEROeET ABOVE RIGHTWARDS ARROWnSUBSETpPERSEThOFj ABOVE ALMOST EQUAL TOqEQUALS SIGN
qNOT EQUAL TOqTILDE OPERATORkOR EQUAL TOv WITH DOT ABOVEkWITH NOT EQUAL TOhWITH DOT
mMULTIPLICATION SIGN BELOWmPLUS SIGN BELOWeTITUTEcCCEEDSi ABOVE ALMOST EQUAL TOpEQUALS SIGN
pNOT ALMOST EQUAL TOtEQUAL TOpSINGLE-LINE EQUALS SIGNzcNOT EQUAL TOjBUT NOT EQUIVALENT TO
jOR EQUAL TOpIVALENT TOjUNDER RELATIONcMMATION BOTTOMkTOPkWITH INTEGRALcNd BEHIND CLOUDeWITH FACE
dDANESE AVAGRAHAkCONSONANT SIGN PAMINGKALzcNYAKRAzeIKUzcSANGAN MAzjWAkDIGIT EIGHTqFIVErOURqNINEqONE
qSEVENrIXqTHREErWOqZEROkLETTER AsErBAsHArCArDArEsUrFAsINAL KxMrGArHArIrJArKAsHArLAsEUrMArNAsGAsYArO
rPArQArRAsEUrSAsYArTArUrVArWArXArYArZAkPUNCTUATION BINDU BA SATANGAzdCAKRAzdDA SATANGAzdKA SATANGA
zdLEU SATANGAzdPANGLONGzeURNAMAzdSURYAkSIGN PAMAAEHrNGLAYARtWISADsYECEKpVIRAMAkVOWEL SIGN PAMEPET
xNAELAENGyEULEUNGyGHULUyOLONGyYUKUdFLOWERdRISEh OVER MOUNTAINSdSET OVER BUILDINGScPERHERO
fSCRIPT EIGHTnQUALS SIGNmFIVEnOURmLATIN SMALL LETTER IzgNnEFT PARENTHESISmMINUSmNINEmONEmPLUS SIGN
mRIGHT PARENTHESISmSEVENnIXmTHREEnWOmZEROgET ABOVE LEFTWARDS ARROWpSUBSETrPERSET
jBESIDE AND JOINED BY DASH WITH SUBSETqSUBSETjOFl ABOVE ALMOST EQUAL TOsEQUALS SIGNsNOT EQUAL TO
sTILDE OPERATORmOR EQUAL TOx WITH DOT ABOVEmWITH NOT EQUAL TOjPRECEDING SOLIDUSjWITH DOT
oMULTIPLICATION SIGN BELOWoPLUS SIGN BELOWfVILLAINcRFACE INTEGRALeERcSHIdPENSION RAILWAYbWAN
dSH AMPERSAND ORNAMENTcIMMERcUNG DASHbYLOTI NAGRI LETTER AuBHOvOuCHOvOuDDHOwOvHOvOuEuGHOvOuHOuIuJHO
vOuKHOvOuLOuMOuNOuOuPHOvOuROvROuSOuTHOvOvTHOwOuUnPOETRY MARK-1z2z3z4nSIGN ALTERNATE HASANTAtNUSVARA
sDVISVARAsHASANTAnVOWEL SIGN AyEyIyOOyUcMBOL FOR ACKNOWLEDGElBACKSPACEmELLlCANCELnRRIAGE RETURN
lDATA LINK ESCAPEmELETEr FORM TWOnVICE CONTROL FOURzbONEzbTHREEzcWOlEND OF MEDIUMsTEXTtRANSMISSION
zf BLOCKnQUIRYmSCAPElFILE SEPARATORmORM FEEDlGROUP SEPARATORlHORIZONTAL TABULATIONlLINE FEED
lMARKS CHAPTERlNEGATIVE ACKNOWLEDGEnWLINEmULLlRECORD SEPARATORlSAMARITAN SOURCEmHIFT INrOUTmPACE
mTART OF HEADINGuTEXTmUBSTITUTEv FORM TWOmYNCHRONOUS IDLElTYPE A ELECTRONICSlUNIT SEPARATOR
lVERTICAL TABULATIONdMETRYcNdAGOGUEdCHRONOUS IDLEcRIAC ABBREVIATION MARKhBARREKHhCOLON SKEWED LEFT
uRIGHTjNTRACTIONhDOTTED ZLAMA ANGULARuHORIZONTALhEND OF PARAGRAPHiSASA ABOVEnBELOWhFEMININE DOT
hHARKLEAN ASTERISCUSqMETOBELUSqOBELUSiBASA ABOVEnBELOWm-ESASA DOTTEDiORIZONTAL COLONhLETTER ALAPH
oBETHoDALATHpOTLESS DALATH RISHoEoFINAL SEMKATHoGAMALt GARSHUNIoHEqTHoKAPHoLAMADHoMALAYALAM BHAyJA
yLLAzbLAyNGAzNAzbNAzYAyRAySSAyTTApIMoNUNoPEqRSIAN BHETHwDHALATHwGHAMALoQAPHoREVERSED PEpISHoSADHE
pEMKATHpHINpOGDIAN FEwKHAPHwZHAINpUPERSCRIPT ALAPHoTAWpETHs GARSHUNIoWAWoYUDHs HEoZAINhMUSIC
hOBLIQUE LINE ABOVEuBELOWhPTHAHA ABOVEoBELOWoDOTTEDhQUSHSHAYAhRBASA ABOVEnBELOWiUKKAKHAiWAHA
hSUBLINEAR COLONw SKEWED LEFTzfRIGHTrFULL STOPjPRALINEAR COLONy SKEWED LEFTtFULL STOP
hTHREE DOTS ABOVEsBELOWiWO VERTICAL DOTS ABOVEzBELOWhZQAPHA ABOVEoBELOWoDOTTEDeNGEaT-REXcSHIRTbAB
dLE TENNIS PADDLE AND BALLcCOcG AMPERSANDfPOSTROPHEfSTERISKeCIRCUMFLEX ACCENTfOLONgMMAiERCIAL AT
eDIGIT EIGHTkFIVElOURkNINEkONEkSEVENlIXkTHREElWOkZEROfOLLAR SIGNeEQUALS SIGNfXCLAMATION MARK
eFULL STOPeGRAVE ACCENTgEATER-THAN SIGNeHYPHEN-MINUSeLATIN CAPITAL LETTER AzBzCzDzEzFzGzHzIzJzKzLzM
zNzOzPzQzRzSzTzUzVzWzXzYzZkSMALL LETTER AxBxCxDxExFxGxHxIxJxKxLxMxNxOxPxQxRxSxTxUxVxWxXxYxZ
fEFT CURLY BRACKETjPARENTHESISjSQUARE BRACKETgSS-THAN SIGNfOW LINEeNUMBER SIGNePERCENT SIGNfLUS SIGN
eQUESTION MARKgOTATION MARKeREVERSE SOLIDUSfIGHT CURLY BRACKETkPARENTHESISkSQUARE BRACKETeSEMICOLON
fOLIDUSfPACEeTILDEeVERTICAL LINEdALOG LETTER AqRCHAIC RApBApDApGApHApIpKApLApMApNAqGApPApRApSApTApU
pWApYAiSIGN PAMUDPODnVIRAMAiVOWEL SIGN ItUdBANWA LETTER AqBAqDAqGAqIqKAqLAqMAqNArGAqPAqSAqTAqUqWAqYA
jVOWEL SIGN IuUcI LE LETTER ApIpUEoEpEpHoFAoHAoIoKApHAoLAoMAoNApGAoOpOoPApHAoQAoSAoTApHApONE-2t3t4t5
t6pSAqHAoUpEoVAoXAoYAeTHAM COMBINING CRYPTOGRAMMIC DOTlNSONANT SIGN BAyFINAL NGA
yHIGH RATHA OR LOW PAyLA TANG LAIzOW PAyMAzEDIAL LAzgRAySAjHORA DIGIT EIGHTuFIVEvOURuNINEuONEuSEVEN
vIXuTHREEvWOuZEROjLETTER AqBAqDAqEEqGREAT SAqHIGH CAwHAvFAvHAvKAwHAwXAvPAwHAvRATHAvSAwHAwSAvTAwHAvYA
qIrIqLAsErLArOW CAvHAuFAuHAuKAvHAvXAuPAvHAuRATHAuSAuTAvHAuYArUEqMAqNArGArYAqOOqRAsNAsTArUEqUrUqWA
jSIGN CAANGoDOKMAIoHANGpOYoKAANsKUUpEOWpHUEN TONE-3z4z5t-LUE KARANoMAI KANGw LAIsSAMsYAMOKoRA HAAM
pEVERSED ROTATED RANAoSAKOTqTKAANvKUUqWANoTONE-1t2oWIANGtWAAKjTHAM DIGIT EIGHTuFIVEvOURuNINEuONE
uSEVENvIXuTHREEvWOuZEROjVOWEL SIGN AvAvEvIuEuIvIuMAI SATuOvA ABOVExBELOWvOvYuTALL AAvHAM AIuUvEvUwE
eVIET LETTER HIGH BOvCHOwOvDOvFOvGOvHOvKHHOxOwOvLOvMOvNGOwOwYOvOvPHOwOvROvSOvTHOwOvVOvYOqLOW BOuCHO
vOuDOuFOuGOuHOuKHHOwOvOuLOuMOuNGOvOvYOuOuPHOvOuROuSOuTHOvOuVOuYOjMAI KANGoHITjSYMBOL HO HOIqKOI KOI
sNqNUENGqSAMjTONE MAI EKsNUENGsSONGsTHOjVOWEL AAqMqNqUEqYpEpIqApOpUqAqErAcKEOUT BOX
dRI ABBREVIATION SIGNgDIGIT EIGHTmFIVEnOURmNINEmONEmSEVENnIXmTHREEnWOmZEROgLETTER AoAoIoRCHAIC KHAoU
nBAoHAnCAoHAnDAoDApHAoHAnEnGAoHAnHAnIoInJAoHAnKAoHAnLAnMAnNAoGAoNAoYAnOnPAoHAnRAoRAnSAoHAnTAoHAoTA
pHAnUoUnVAnYAgSIGN ANUSVARAlNUKTAlVIRAMAnSARGAgVOWEL SIGN AAsIsUrErIsIrOrUsUcLLY MARK FIVElONEcMALE
dIL AND ODD SIGNhS ABOVE SIGNhU LENGTH MARKgCREDIT SIGNhURRENT SIGNgDAY SIGNhEBIT SIGNhIGIT EIGHT
mFIVEnOURmNINEmONEmSEVENnIXmTHREEnWOmZEROhRY CULTIVATION SIGNgFRACTION DOWNSCALING FACTOR KIIZH
pONE EIGHTHyIETHtFIFTHuORTIETHtHALF-1y2tONE-HUNDRED-AND-SIXTIETHtQUARTERtSIXTEENTH-1ze2xY-FOURTH
tTENTHuHIRTY-SECONDvREE-HUNDRED-AND-TWENTIETHuWENTIETHpTHREE EIGHTIETHSvQUARTERSvSIXTEENTHS
zY-FOURTHSvTWENTIETHSgIN POSSESSION SIGNgLAND SIGNhETTER AoAoIoUnCAnEoEnHAnIoInJAnKAnLAoLApLAnMAnNA
oGAoNApNAoYAnOoOnPAnRAoRAnSAoHAoSAnTAoTAnUoUnVAnYAgMONTH SIGNgNUMBER ONE HUNDREDrTHOUSANDnSIGNnTEN
gOMgPUNCTUATION END OF TEXTgRUPEE SIGNgSALT PAN SIGNhIGN AAZHAAKKUmNUSVARAlCEVITUlKAACUmURUNInZHI
lMUKKURUNInTHALIYAnUVUZHAKKUlNELlPAARAMnNAMnTHAKKUmONlUZHAKKUlVAKAIYARAAnRAAKANmELImIRAMAnSARGA
hPENT SIGNhTARTING FROM SIGNgTOTAL SIGNhRADITIONAL CREDIT SIGNsNUMBER SIGNgVOWEL SIGN AAsIsUrEsErIsI
rOsOrUsUgWET CULTIVATION SIGNgYEAR SIGNcNABATA TREEdGERINEeSA DIGIT EIGHTnFIVEoOURnNINEnONEnSEVENoIX
nTHREEoWOnZEROhLETTER ACpQpWCqQqXqZpXpZoBAoCApHAoDApHAoECpQpXpZoFApINAL NGoGApHAoHApTAqTAoICpQpXpZ
oKApHAoLApONG UEXoMApCpQpXpZoNApGApHApYAoOCpQpXpZoPApHAoRAoSApHAqORT AWXuUEZoTApHApSAoUCpECqQqXqZpIC
qQqUCrQrXrZqXqZpQpXpZoVCpQpXpZoWAoXAoYAoZAeUT ITERATION MARKcPE CARTRIDGEfDRIVEcURUScXI
bEACUP WITHOUT HANDLEdPOTdR-OFF CALENDAReDROP-BARBED RIGHTWARDS ARROWjSPOKED ASTERISKcDDY BEAR
cLEPHONE LOCATION SIGNkON TOP OF MODEMkRECEIVERs WITH PAGEnORDERkSIGNeSCOPEeVISION
dUGU AI LENGTH MARKhDIGIT EIGHTnFIVEoOURnNINEnONEnSEVENoIXnTHREEoWOnZERO
hFRACTION DIGIT ONE FOR EVEN POWERS OF FOURzfODD POWERS OF FOURwTHREE FOR EVEN POWERS OF FOUR
zhODD POWERS OF FOURxWO FOR EVEN POWERS OF FOURzfODD POWERS OF FOURwZERO FOR ODD POWERS OF FOUR
hLENGTH MARKjTTER ApApIpUoBApHAoCApHAoDApDAqHApHApZAoEpEoGApHAoHAoIpIoJApHAoKApHAoLApLAqLAoMAoNA
qKAARA POLLUpGApNApYAoOpOoPApHAoRApRAqRAoSApHApSAoTApHApSApTAqHAoUpUoVApOCALIC LxLwRxRoYA
hSIGN ANUSVARAnVAGRAHAmCANDRABINDUnOMBINING ANUSVARA ABOVEwCANDRABINDU ABOVEmNUKTAmSIDDHAMmTUUMU
mVIRAMAoSARGAhVOWEL SIGN AAtItUsEtEsItIsOtOsUtUsVOCALIC LzcLzbRzcRcNGE SIGNdNIS RACQUET AND BALLdT
cST TUBEcTRAGRAM FOR ACCUMULATIONpDVANCEpGGRAVATIONpSCENToBARRIERpOLD RESOLUTIONpRANCHING OUToCENTRE
pHANGEpLOSED MOUTHtNESSsUREpOMPLETIONtIANCEqNSTANCYrTACTsENTIONsRARIETYoDARKENINGpECISIVENESS
qFECTIVENESS OR DISTORTIONqPARTUREpIFFICULTIESqMINISHMENTrMINGqVERGENCEpOUBTpUTIESoEASEpMBELLISHMENT
pNCOUNTERSqDEAVOURqLARGEMENTpTERNITYpXHAUSTIONoFAILUREpLIGHTpOLLOWINGqSTERINGpULL CIRCLEsNESS
oGATHERINGx INpOING TO MEETpREATNESSpUARDEDNESSoHARDNESSpOLDING BACKoINCREASEqNERoJOYoKEEPING SMALL
pINSHIPoLABOURINGqW OR MODELpEGIONoMASSINGpEASUREpIREDoON THE VERGEpPPOSITIONoPACKINGqTTERN
pENETRATIONpURITYoREACHqLEASEqSIDENCEsSTANCErPONSEpITUALoSEVERANCEpINKINGpTOPPAGErVEqRENGTHoUNITY
oVASTNESS OR WASTINGoWAITINGqTCHoYOUTHFULNESSbHAANA AABAAFILIiBAFILIhEBEFILIiEBEEFILIiYBEYFILI
hIBIFILIhLETTER AINUpLIFUoBAAoCHAVIYANIoDAADHUqVIYANIpHAALUoFAAFUoGAAFUpHAINUpNAVIYANIoHAApHAA
oJAVIYANIoKAAFUpHAAoLAAMUpHAVIYANIoMEEMUoNAApOONUoPAVIYANIoQAAFUoRAAoSAADHUpEENUpHAVIYANIqEENU
oTAVIYANIpHAAsLUpOpTAAoVAAVUoWAAVUoYAAoZAAqVIYANIpOhOABOAFILIiBOFILIiOBOOFILIhSUKUNhUBUFILI
dI CHARACTER ANGKHANKHUpBO BAIMAIpCHO CHANxGvINGvOEpDO CHADAsDEKpFO FAuNrNGMANpHO HIPsNOKHUK
pKHO KHAIvONvUATvWAItRAKHANGsMUTqO KAIpLAKKHANGYAOqO CHULAsLINGqUpMAI CHATTAWAtEKtHAN-AKATtTHOuRI
sTAIKHUsYAMOKqO MApNGO NGUqIKHAHITqO NENtUpO ANGpPAIYANNOIqHINTHUrO PHANvUNGtSAMPHAOqO PLApRO RUAqU
pSARA AvAvEvI MAIMALAIzcUANvMuEuIvIuOuUvEwEvUqO RUSIsSALAtOtUApTHANTHAKHATrO NANGMONTHOtPHUTHAO
tTHAHANwNvONGvUNGqO PATAKsTAOpWO WAENpYAMAKKANqO YAKtINGgURRENCY SYMBOL BAHTfDIGIT EIGHTlFIVEmOUR
lNINElONElSEVENmIXlTHREEmWOlZEROcERE DOES NOT EXISTgEXISTSfFOREeMODYNAMICgMETERcIN GREEK CROSS
fSALTIREgPACEeKING FACEdRD PLACE MEDALcONG SANDALdUGHT BALLOONcREE BUTTON MOUSE
gCONSECUTIVE EQUALS SIGNSgDIMENSIONAL ANGLEhOT PUNCTUATIONgLEFTWARDS ARROWShINES CONVERGING LEFT
xRIGHTgNETWORKED COMPUTERSgPOINTED BLACK STARgRAYS ABOVElBELOWlLEFTlRIGHThIGHTWARDS ARROWS
gSPEECH BUBBLESf-D BOTTOM-LIGHTED RIGHTWARDS ARROWHEADiLEFT-LIGHTED DOWNWARDS EQUILATERAL ARROWHEAD
iRIGHT-LIGHTED UPWARDS EQUILATERAL ARROWHEADiTOP-LIGHTED LEFTWARDS EQUILATERAL ARROWHEAD
uRIGHTWARDS ARROWHEADzgEQUILATERAL ARROWHEADgEM DASHgPER-EM SPACEcUMBS DOWN SIGNhUP SIGN
dNDER CLOUD AND RAINhSTORMbIBETAN ASTROLOGICAL SIGN -KHYUD PAzbSDONG TSHUGSzcGRA GCAN -CHAR RTAGS
iCANTILLATION SIGN CANG TE-UzbHEAVY BEATzbLIGHT BEATzbSBUB -CHALiDIGIT EIGHToFIVEpOURoHALF EIGHT
tFIVEuOURtNINEtONEtSEVENuIXtTHREEuWOtZEROoNINEoONEoSEVENpIXoTHREEpWOoZEROiKU RU KHAr BZHI MIG CAN
iLETTER -ApApBAqHApCAqHApDAqDArHAqHAqZArHApFIXED-FORM RApGAqHApHApJApKAqHAqKAqSSApLApMApNAqGAqNAqYA
pPAqHApRAqRApSAqHAqSApTAqHAqSArHAqTArHApWApYApZAqHAjOGOTYPE SIGN CHAD RTAGSwLHAG RTAGS
iMARK ANG KHANG GYASzONnBKA- SHOG GI MGO RGYANxYIG MGOoSDUS RTAGSpKA- SHOG GI MGO RGYANqUR YIG MGO
nCARET -DZUD RTAGS BZHI MIG CANzgME LONG CANtYIG MGO PHUR SHAD MAoHE MGO
oLOSING BRDA RNYING YIG MGO SGAB MAvYIG MGO SGAB MAnDELIMITER TSHEG BSTARnGTER TSHEG
sYIG MGO -UM GTER TSHEG MAzfRNAM BCAD MAzbTRUNCATED AoUG RTAGS GYASzONnHALANTA
nINITIAL BRDA RNYING YIG MGO MDUN MAvYIG MGO MDUN MApTERSYLLABIC TSHEGnLEADING MCHAN RTAGS
nMNYAM YIG GI MGO RGYANnNGAS BZUNG NYI ZLAySGOR RTAGSoYIS SHADsTSHEGx SHADnPALUTAnRGYA GRAM SHAD
oIN CHEN SPUNGS SHADnSBRUL SHADoHADnTRAILING MCHAN RTAGSoSA -PHRUpHEG SHADnYIG MGO TSHEG SHAD MA
iSIGN GRU CAN RGYINGSrMED RGYINGSnINVERTED MCHU CANnLCE TSA CANpI RTAGSnMAR TSHESoCHU CAN
nNYI ZLA NAA DAnRDEL DKAR GCIGyNYISySUMxRDEL NAGsNAG GCIGxNYISxSUMwRDEL DKARoJES SU NGA ROoNAM BCAD
nSNA LDANnYANG RTAGSpR TSHESjUBJOINED LETTER -AzAzBAzbHAzCAzbHAzDAzbDAzcHAzbHAzbZAzcHAzFIXED-FORM RA
zlWAzlYAzGAzbHAzHAzJAzKAzbHAzbSSAzLAzMAzNAzbGAzbNAzbYAzPAzbHAzRAzSAzbHAzbSAzTAzbHAzbSAzcHAzbTAzcHA
zWAzYAzZAzbHAsSIGN INVERTED MCHU CANxLCE TSA CANxMCHU CANjYLLABLE OMkMBOL DRIL BUpNOR BU
v BZHI -KHYILwGSUM -KHYILwNYIS -KHYILpPADMA GDANqHUR PApRDO RJEw RGYA GRAMiVOWEL SIGN AAtEuEtIuItOuO
tREVERSED IzeItUuUtVOCALIC LzdLzcRzdRcCKETcE OVER INFINITYcFINAGH CONSONANT JOINER
jLETTER AHAGGAR YAZHrYER YAGHqBERBER ACADEMY YAHziJqTAWELLEMET YAZrUAREG YAGHzbNzHzKzbHzNGzQzZHqYAsA
sBtHsCHsDtDuHtHsFsGtHuHsHtHsJsKtHuHsLsMsNsPsQsRtRsStHtSsTtHtTsVsWsYsZtHtZrEsYrIrOrU
jMODIFIER LETTER LABIALIZATION MARKjSEPARATOR MARKcGERf FACEdHT TRIFOLIATE SNOWFLAKEcLDEf OPERATOR
o ABOVE LEFTWARDS ARROWvRIGHTWARDS ARROWpWITH DOT ABOVEuRISING DOTSgWITH DOT ABOVEpBELOWlRING ABOVE
cMER CLOCKeS WITH LEFT HALF BLACKlRIGHT HALF BLACKcNYe TWO DOTS OVER ONE DOT PUNCTUATIONcRED FACE
dHUTA ABBREVIATION SIGNjNJIiDIGIT EIGHToFIVEpOURoNINEoONEoSEVENpIXoTHREEpWOoZEROiGVANGiLETTER AqAqI
qUpBAqHApCAqHApDAqDArHAqHApEpGAqHApHApIqIpJAqHApKAqHApLApMApNAqGAqNAqYApOpPAqHApRApSAqHAqSApTAqHAqTA
rHApUqUpVAqOCALIC LyLxRyRpYAiOMiSIGN ANUSVARAoVAGRAHAnCANDRABINDUnNUKTAnVIRAMApSARGAiVOWEL SIGN AAuI
uUtEtIuItOtSHORT EzOtUuUtVOCALIC LzdLzcRzdRdONIAN SIGN CAPITAL EToETbOILETcKYO TOWERcMATOcNGUEcOLBOX
dTHfBRUSHcP ARC ANTICLOCKWISE ARROWzc WITH PLUSiCLOCKWISE ARROW WITH MINUSeCURLY BRACKET
eHALF BLACK CIRCLEjINTEGRALjLEFT PARENTHESISjRIGHT PARENTHESISjSECTION SIGNgTeLEFT CORNERkROP
jHALF BRACKETePARENTHESISeRIGHT CORNERlROPkHALF BRACKETeSQUARE BRACKETeTORTOISE SHELL BRACKET
eWITH UPWARDS ARROW ABOVEcRTOISE SHELL BRACKETED CJK UNIFIED IDEOGRAPH-4E09zy8Czw52DDzxB89zw6253
zx557zx72Czw70B9zx6D7zLATIN CAPITAL LETTER ScTAL RUNOUTdO LETTER AnEmBAnREATHY AEuEvOuIvUmCHAmDAmEnO
mGAmHAmInUmJAmKAmLAmMAmNAnGAmOmPAmRAmSAmTAmUmWAmYAfSIGN RISING TONEbRACKBALLeTORdDE MARK SIGNdINdM
e CARdNSPLUTOfVERSAL INTERSECTIONcIANGLE WITH DOT ABOVEoROUNDED CORNERSoSERIFS AT BOTTOMoUNDERBAR
i-HEADED RIGHTWARDS ARROWgULAR BULLETlFLAG ON POSTlRULERdCOLONdDENT EMBLEMdGRAM FOR EARTHmFIRE
mHEAVENmLAKEmMOUNTAINmTHUNDERmWATERnINDdPLE COLON OPERATORhDAGGER
hHORIZONTAL BAR WITH DOUBLE VERTICAL STROKEzcTRIPLE VERTICAL STROKEhINTEGRALhNESTED GREATER-THAN
oLESS-THANhPLUSiRIMEhSOLIDUS BINARY RELATIONhTILDEhVERTICAL BAR BINARY RELATIONuDELIMITER
uRIGHT TURNSTILEuWITH HORIZONTAL STROKEcOLLfEYBUSdPHYeICAL DRINKjFISHcUEe LIGHT MOON ARTAdMPET
bUGRIK SIGNcLIPcMBLER GLASScRKEYeISH LIRA SIGNdNED AMPERSANDiNGLEhBLACK PENTAGONnSHOGI PIECE
hCAPITAL FiOMMAhDAGGERiIGIT THREEoWOhGREEK SMALL LETTER IOTAhNORTH EAST POINTING LEAF
nWEST POINTING LEAFjT SIGNhOK HAND SIGNhSANS-SERIF CAPITAL GzbLzbYiEMICOLONiMALL F
iOUTH EAST POINTING LEAFnWEST POINTING LEAFhWHITE SHOGI PIECEdTLEbWELVE POINTED BLACK STAR
cISTED RIGHTWARDS ARROWScO ASTERISKS ALIGNED VERTICALLYeBUTTON MOUSEeCONSECUTIVE EQUALS SIGNS
eDOT LEADERiPUNCTUATIONhS OVER ONE DOT PUNCTUATIONeHEARTSeINTERSECTING LOGICAL ANDzOReJOINED SQUARES
eLOGICAL AND OPERATORmOR OPERATOReMEN HOLDING HANDSeSPEECH BUBBLESeWOMEN HOLDING HANDSd-EM DASH
aUGARITIC LETTER AINrLPAqBETAqDELTArHALqGAMLArHAINqHOsTAqIqKAFrHAqLAMDAqMEMqNUNqPUqQOPAqRASHAqSADE
sMKArHINrSUqTETrHANNArOqUqWOqYODqZETArUjWORD DIVIDERbMBRELLAi ON GROUNDjWITH RAIN DROPSbNAMUSED FACE
cCERTAINTY SIGNcDERTIEdO SYMBOLcICORN FACEdONf ABOVE BAR ABOVE INTERSECTIONmINTERSECTION
gBESIDE AND JOINED WITH UNIONgWITH LOGICAL ORlMINUS SIGNlOVERBARdT SEPARATOReED SYMBOL
dVERSAL RECYCLING SYMBOLcMARRIED PARTNERSHIP SYMBOLbP ARROW THROUGH CIRCLEiHEAD
m BETWEEN TWO HORIZONTAL BARSnIN A RECTANGLE BOXdBARB LEFT DOWN BARB LEFT HARPOONxRIGHT HARPOON
iRIGHT DOWN BARB LEFT HARPOONyRIGHT HARPOONdDOWN ARROWn WITH BASEiBLACK ARROWiDOUBLE ARROW
iSANS-SERIF ARROWiTRIANGLE-HEADED ARROWiWHITE ARROWdFISH TAILdRIGHT DIAGONAL ELLIPSISdTACK
h WITH CIRCLE ABOVEc-POINTING AIRPLANEmMILITARY AIRPLANEmRED TRIANGLEmSMALL AIRPLANEsRED TRIANGLE
mTRIANGLE WITH LEFT HALF BLACKzbRIGHT HALF BLACK
cPER AND LEFT AND LOWER TRIANGULAR THREE QUARTERS BLOCKlOWER ONE EIGHTH BLOCKqTRIANGULAR HALF BLOCK
kRIGHT AND LOWER TRIANGULAR THREE QUARTERS BLOCKgBLADE SCISSORSgFIVE EIGHTHS BLOCKgHALF BLOCK
q AND LOWER HALF INVERSE MEDIUM SHADElCIRCLElINVERSE MEDIUM SHADE AND LOWER HALF BLOCKtWHITE CIRCLE
lMEDIUM SHADEgLEFT BLOCK DIAGONAL LOWER CENTRE TO LOWER MIDDLE RIGHTzrUPPER MIDDLE RIGHTzxRIGHT
zhLEFT TO LOWER MIDDLE RIGHTzpUPPER CENTREzvMIDDLE RIGHTzhMIDDLE LEFT TO UPPER CENTREzzdMIDDLE RIGHT
zzdRIGHTzbUPPER MIDDLE LEFT TO UPPER CENTREzzdRIGHTlCORNER WITH DOT
lOR LOWER RIGHT CURLY BRACKET SECTIONlQUADRANT CIRCULAR ARClTO LOWER RIGHT FILLmRIANGLE
rULAR MEDIUM SHADEgONE EIGHTH BLOCKkQUARTER BLOCK
gRIGHT BLOCK DIAGONAL LOWER MIDDLE LEFT TO LOWER CENTREzzeRIGHTzcUPPER CENTRE TO LOWER MIDDLE RIGHT
zyRIGHTzsUPPER MIDDLE RIGHTziLEFT TO LOWER CENTREzwMIDDLE RIGHTzqUPPER MIDDLE RIGHT
ziMIDDLE LEFT TO LOWER CENTREzzeMIDDLE RIGHTzzeRIGHTmDROP-SHADOWED WHITE SQUARE
mOR LOWER LEFT CURLY BRACKET SECTIONmPENCILmQUADRANT CIRCULAR ARCmSHADOWED WHITE CIRCLEzcSQUARE
mTO LOWER LEFT FILLnRIANGLEsULAR MEDIUM SHADEgSEVEN EIGHTHS BLOCKgTHREE EIGHTHS BLOCKmQUARTERS BLOCK
hRIANGULAR ONE QUARTER BLOCKcSIDE-DOWN FACEcWARDS ANCORAjRROWn AND RIGHT ONE EIGHTH BLOCKoFROM BAR
oLEFTWARDS OF DOWNWARDS ARROWoTO BARoWITH DOUBLE STROKEtEQUILATERAL ARROWHEADtHORIZONTAL STROKE
tLARGE TRIANGLE ARROWHEADtMEDIUM TRIANGLE ARROWHEADtNOTCHED TAILtSMALL EQUILATERAL ARROWHEAD
zTRIANGLE ARROWHEADtTIP LEFTWARDSxRIGHTWARDSiBLACK ARROWoCIRCLED WHITE ARROWiCOMPRESSED ARROW
iDASHED ARROWjOUBLE ARROWiFINGER-POST ARROW
iHARPOON WITH BARB LEFT BESIDE DOWNWARDS HARPOON WITH BARB RIGHTznUPWARDS HARPOON WITH BARB RIGHT
zgFROM BARzgTO BARzfWARDSzbRIGHT FROM BARzhTO BARzgWARDSjEAVY ARROWoCOMPRESSED ARROWiPAIRED ARROWS
iQUADRUPLE ARROWiROCKETiSANS-SERIF ARROWjQUARED ARROWiTRIANGLE ARROWHEADq-HEADED ARROW
ze LEFTWARDS OF DOWNWARDS TRIANGLE-HEADED ARROWzfTO BARzfWITH BOLD SHAFTzkDOUBLE HORIZONTAL STROKE
zkHEAVY SHAFTzkLONG TIP LEFTWARDSztRIGHTWARDSzkMEDIUM SHAFTzkNARROW SHAFTzkVERY HEAVY SHAFT
yDASHED ARROWyPAIRED ARROWSlPLE ARROWjWO HEADED ARROWl-HEADED ARROW FROM SMALL CIRCLE
zWITH TRIANGLE ARROWHEADSiWHITE ARROWt FROM BARzd WITH HORIZONTAL BARuON PEDESTAL
zg WITH HORIZONTAL BARzmVERTICAL BARuWITHIN TRIANGLE ARROWHEADoDOUBLE ARROWzb ON PEDESTALbRANUSbS
aVAI COMMAeDIGIT EIGHTkFIVElOURkNINEkONEkSEVENlIXkTHREElWOkZEROeFULL STOPeQUESTION MARKeSYLLABLE AoN
nBAoEpEoHApEqEpIpOqOpUoIoOpOoUnCAoEpEoIoOpOoUnDAoEpEoHApEqEpHAqErEqIqOrOqUpIpOqOpUoIoOpOoUnEoEpNoN
nFAoEpEoIoOpOoUnGAoBApEqEqNpIpOqNqOpUoEpEpNoIoOpOoUnHApNoEpEpNoIpNoOpNpOoUpNnIoNnJAoEpEoIoOpOoUnKApN
oEpEoIoOpOoPAqNpEqEqNpIpOqOpUoUnLAoEpEpNGTHENERoIoOpOoUnMAoBApEqEpIpOqOpUoEpEoGBAqErEqIqOrOqUoIoOpO
oUnNAoDApEqEpIpOqLE DOtFAtKAtMAtSOOqOpUoEpEoGpANpENpGAqErErNqIqOrOqUpONoIoJApEqEpIpOqOpUoOpOoUoYApE
qEpIpOqOpUnOoNoOpNnPAoEpEoIoOpOoUnRAoEpEoIoOpOoUnSAoEpEoHApEqEpIpOqOpUoIoOpOoUnTAoEpEoHApEqEpIpOqOpU
oIoOpOoUnUoNnVAoEpEoIoOpOoUnWApNoEpEqNpNoIpNoOpNpOqNoUpNnYAoEpEoIoOpOoUnZAoEpEoHApEqEpIpOqOpUoIoOpO
oUgMBOL BANGlDANGmO-OnONGlFAAmEENGlJONGlKEENGmUNGlNIIlTAAmINGmONGcMPIREbECTOR OR CROSS PRODUCT
cDIC SIGN ANUSVARA ANTARGOMUKHAuBAHIRGOMUKHAuUBHAYATO MUKHAuVAMAGOMUKHAzg WITH TAILmRDHAVISARGA
mTIKRAMAlDOUBLE ANUSVARA ANTARGOMUKHAlHEXIFORM LONG ANUSVARAlJIHVAMULIYAlLONG ANUSVARAlNIHSHVASA
lREVERSED VISARGA ANUDATTAzdUDATTAmOTATED ARDHAVISARGAmTHANG LONG ANUSVARAlTIRYAKlUPADHMANIYA
lVISARGA ANUDATTAzc WITH TAILtSVARITAtUDATTAz WITH TAILlYAJURVEDIC MIDLINE SVARITA
gTONE ATHARVAVEDIC INDEPENDENT SVARITAlCANDRA ABOVEsBELOWlDOT BELOWnUBLE RING ABOVEsSVARITAlKARSHANA
nTHAKA ANUDATTAlPRENKHAlRIGVEDIC KASHMIRI INDEPENDENT SVARITAnNG ABOVElSHARAlTHREE DOTS BELOW
mRIPLE SVARITAmWO DOTS BELOWlYAJURVEDIC AGGRAVATED INDEPENDENT SVARITAwINDEPENDENT SVARITA
wKATHAKA INDEPENDENT SVARITAzy SCHROEDERcRSICLEdTICAL BAR BESIDE RIGHT TRIANGLE
nDOUBLE LEFT TURNSTILEnTRIPLE RIGHT TURNSTILEnWITH HORIZONTAL STROKEjELLIPSISjFOUR DOTS
jIDEOGRAPHIC ITERATION MARKjKANA REPEAT MARKz LOWER HALFzbUPPER HALFvWITH VOICED SOUND MARK
zs UPPER HALFjLINEn EXTENSIONoWITH CIRCLE ABOVEzbBELOWtMIDDLE DOTjMALE WITH STROKE SIGN
jONE EIGHTH BLOCK-2zb3zb4zb5zb6zb7jSIX DOTSjTAB KEYmULATIONt SETkILDEkRAFFIC LIGHTjZIGZAG LINE
dY BOLD GREEK CROSSfHEAVY EIGHT POINTED BLACK STARrSPOKED ASTERISKlFIVE SPOKED ASTERISKlGREEK CROSS
lREVERSE SOLIDUSlSALTIREmIX SPOKED ASTERISKmOLIDUSlWHITE CIRCLErSQUAREfMUCH GREATER-THANkLESS-THAN
cSTAbIBRATION MODEcCTORY HANDcDEO CAMERAgGAMEfCASSETTEcETNAMESE ALTERNATE READING MARK CAzjNHAY
dWDATA SQUAREcOLINcRGOcTHKUQI CAPITAL LETTER AyBBEzEyCEzHEyDEzHEyEzIyFEyGAyHAzHAyIzJEyJEyKAyLAzLAyME
yNEzJEyOyPEyQAyREySEzHEyTEzHEyUyVEyXEyYyZEjSMALL LETTER AwBBExEwCExHEwDExHEwExIwFEwGAwHAxHAwIxJEwJE
wKAwLAxLAwMEwNExJEwOwPEwQAwREwSExHEwTExHEwUwVEwXEwYwZEbOIDED GREEK CROSScLCANOdLEYBALLdUME INTEGRAL
bTcSbULCANUSdGAR FRACTION FIVE EIGHTHSvSIXTHSrOUR FIFTHSqONE EIGHTHuFIFTHuHALFuNINTHuQUARTERuSEVENTH
vIXTHuTENTHvHIRDqSEVEN EIGHTHSqTHREE EIGHTHSwFIFTHSwQUARTERSrWO FIFTHSuTHIRDSqZERO THIRDSaWAFFLE
cNCHO DIGIT EIGHTnFIVEoOURnNINEnONEnSEVENoIXnTHREEoWOnZEROhLETTER ApAqNrGpNGpUoBAoCAoDAoEpNoFAoGAoHA
oIpNGoJAoKApHAoLApLHAoMAoNApGApYAoOpNqGoPApHAoRAoSApHAoTApHApRApSAoUpENoVAoWAoYApIHoZAhNGUN SIGN
hTONE KOIpNImTUPpNIdING CRESCENT MOON SYMBOLhGIBBOUS MOON SYMBOLcRANG CITI CAPITAL LETTER AzdMzdNG
zdTzcBUzcDAzcEzdNNzeYzcGAzcHARzdIYOzdOLOzeRRzcIIzcKOzcNGAAzdUNGzcOzdDDzcPUzcSIIzdSUUzcTTEzcUCzdU
zcVIYOzcWIzcYAzdOzdUzeJmDIGIT EIGHTsFIVEtOURsNINEsONEsSEVENtIXsTHREEtWOsZEROmNUMBER EIGHTYtFIFTY
uORTYtNINETYtSEVENTYuIXTYtTENuHIRTYuWENTYmOMmSMALL LETTER AzbMzbNGzbTzBUzDAzEzbNNzcYzGAzHARzbIYO
zbOLOzcRRzIIzKOzNGAAzbUNGzOzbDDzPUzSIIzbSUUzTTEzUCzbUzVIYOzWIzYAzbOzbUzcJdNING SIGNcSTEBASKETcTCH
dER BUFFALOgCLOSETgPOLOgWAVEfMELONcVE ARROW POINTING DIRECTLY LEFTzeRIGHTfDASHdING BLACK FLAG
hHAND SIGNhWHITE FLAGdY DASHfLINEgOW LINEfOVERLINEcXING CRESCENT MOON SYMBOLhGIBBOUS MOON SYMBOL
bEARY CAT FACEgFACEcDDINGdGE-TAILED RIGHTWARDS ARROWcIERSTRASS ELLIPTIC FUNCTIONdGHT LIFTER
cST SYRIAC CROSSbHALEcEELf OF DHARMAfCHAIR SYMBOLcITE ARROW SHAFT WIDTH ONEyTWO THIRDSgBULLET
gCHESS BISHOPs ROTATED NINETY DEGREESzcTWO HUNDRED SEVENTY DEGREESmEQUIHOPPER
w ROTATED NINETY DEGREESmKINGq ROTATED NINETY DEGREESzTWO HUNDRED SEVENTY DEGREESnNIGHT
s ROTATED FORTY-FIVE DEGREESzcNINETY DEGREESzcONE HUNDRED THIRTY-FIVE DEGREES
zcTHREE HUNDRED FIFTEEN DEGREESzdWO HUNDRED SEVENTY DEGREESzoTWENTY-FIVE DEGREESs-BISHOPtQUEENtROOK
mPAWNq ROTATED NINETY DEGREESzTWO HUNDRED SEVENTY DEGREESmQUEENr ROTATED NINETY DEGREES
zbTWO HUNDRED SEVENTY DEGREESmROOKq ROTATED NINETY DEGREESzTWO HUNDRED SEVENTY DEGREESmTURNED BISHOP
tKINGuNIGHTtPAWNtQUEENtROOKhIRCLEm CONTAINING BLACK SMALL CIRCLEnWITH DOT RIGHTuWN ARROW
sLOWER LEFT QUADRANTyRIGHT QUADRANTsTWO DOTSsUPPER LEFT QUADRANTyRIGHT QUADRANThLUB SUIT
hONCAVE-SIDED DIAMONDzc WITH LEFTWARDS TICKziRIGHTWARDS TICKgDIAMOND
n CONTAINING BLACK MEDIUM DIAMONDzgSMALL DIAMONDzgVERY SMALL DIAMONDoIN SQUAREoSUIToWITH CENTRED DOT
hOWN POINTING BACKHAND INDEXuINDEXuLEFT HAND INDEXk-POINTING SMALL TRIANGLEuTRIANGLEhRAUGHTS KING
pMANgEXCLAMATION MARK ORNAMENTgFLAGk WITH HORIZONTAL MIDDLE BLACK STRIPEiORETTEjWERhOUR POINTED CUSP
tSTARhROWNING FACEgHARD SHELL FLOPPY DISKhEARTl SUITjVY CHECK MARKmSALTIRE WITH ROUNDED CORNERS
iXAGONhORIZONTAL ELLIPSEiURGLASSgLARGE SQUAREiTIN CROSShEFT LANE MERGElPOINTING BACKHAND INDEXuINDEX
k-POINTING POINTERuSMALL TRIANGLEuTRIANGLEhOZENGE CONTAINING BLACK SMALL LOZENGEgMEDIUM DIAMOND
nLOZENGEnSMALL SQUAREoQUAREoTARhOON SELENAgNIBgPARALLELOGRAMhENNANTjTAGONgQUESTION MARK ORNAMENT
gRECTANGLEhIGHT POINTING BACKHAND INDEXvINDEXl-POINTING PENTAGONwOINTERvSMALL TRIANGLEvTRIANGLE
gSCISSORShESAME DOThHOGI PIECEhMALL LOZENGEmSQUAREnTARiILING FACEhPADE SUIThQUAREm BUTTON
nCONTAINING BLACK MEDIUM SQUAREzfSMALL SQUAREzfVERY SMALL SQUAREnWITH CENTRE VERTICAL LINE
sLEFTWARDS TICKtOWER LEFT QUADRANTyRIGHT QUADRANTsRIGHTWARDS TICKtOUNDED CORNERSsUPPER LEFT QUADRANT
yRIGHT QUADRANTsVERTICAL BISECTING LINEhTARhUNj BEHIND CLOUDw WITH RAINkWITH RAYSpSMALL CLOUD
gTELEPHONEhOUCHTONE TELEPHONEhRAPEZIUMiIANGLE CONTAINING SMALL WHITE TRIANGLE
hWO-WAY LEFT WAY TRAFFICgUP POINTING BACKHAND INDEXsINDEXi-POINTING CHEVRONsSMALL TRIANGLEsTRIANGLE
zb WITH DOTgVERTICAL BARpELLIPSEpRECTANGLEjY SMALL SQUAREf-FEATHERED RIGHTWARDS ARROW
bIDE-HEADED DOWNWARDS BARB ARROWwHEAVY BARB ARROWwLIGHT BARB ARROWwMEDIUM BARB ARROW
wVERY HEAVY BARB ARROWmLEFTWARDS BARB ARROWwHEAVY BARB ARROWwLIGHT BARB ARROWwMEDIUM BARB ARROW
wVERY HEAVY BARB ARROWmNORTH EAST BARB ARROWxHEAVY BARB ARROWxLIGHT BARB ARROWxMEDIUM BARB ARROW
xVERY HEAVY BARB ARROWsWEST BARB ARROWxHEAVY BARB ARROWxLIGHT BARB ARROWxMEDIUM BARB ARROW
xVERY HEAVY BARB ARROWmRIGHTWARDS BARB ARROWxHEAVY BARB ARROWxLIGHT BARB ARROWxMEDIUM BARB ARROW
xVERY HEAVY BARB ARROWmSOUTH EAST BARB ARROWxHEAVY BARB ARROWxLIGHT BARB ARROWxMEDIUM BARB ARROW
xVERY HEAVY BARB ARROWsWEST BARB ARROWxHEAVY BARB ARROWxLIGHT BARB ARROWxMEDIUM BARB ARROW
xVERY HEAVY BARB ARROWmUPWARDS BARB ARROWuHEAVY BARB ARROWuLIGHT BARB ARROWuMEDIUM BARB ARROW
uVERY HEAVY BARB ARROWcGGLY VERTICAL LINEcLTED FLOWERcND BLOWING FACEfCHIMEeOWdE GLASSdKING FACE
cRED KEYBOARDbJbOLF FACEcMANf WITH BUNNY EARSfS BOOTShCLOTHEShHAThSANDALdENS SYMBOLcN SIGNcOD
cRD JOINERfSEPARATOR MIDDLE DOTdLD MAPdMdRIED FACEbRAPPED PRESENTcEATH PRODUCTdNCHdSTLERScITING HAND
aX IN A RECTANGLE BOXb-RAYbIANGQI BLACK CANNONpHARIOToELEPHANToGENERALoHORSEoMANDARINoSOLDIER
iRED CANNONnHARIOTmELEPHANTmGENERALmHORSEmMANDARINmSOLDIERbORaYAWNING FACEbELLOW HEARTcN SIGN
cZIDI COMBINING HAMZA MARKrMADDA MARKhHYPHENATION MARKhLETTER BEoCHHIMqIMpIMoDADqLoELIFpTpWpYNoFA
oGAFoHAYpHAoJAoKAFpHAFoLAMr WITH DOT ABOVEoMIMoNUNoOWoPEpHEoQAFoRApHAoSADpEpHINpINoTApHEoUMoVA
q ALTERNATE FORMoWAWoXApHEYNoYOTr WITH CIRCUMFLEX ABOVEoZAqLpEbI RADICAL BBUTmURlCHEmIPmUOPmYnPnT
lDDURmUlGAmEPmGOPnUOmOTlHMOmXITnOPnUOlJJIEnUTnYmOlKEmITlLInEmYRlMImOPlNBIEmYIPnOPmZUPlOPlPUTmYTlQOT
lSHATnOPnURnYmSIlTATmUlVEPmURlWOlYITmOlZAmOTmUPnRmZIETdSYLLABLE AnPnTnXmBAoPoToXnBApPpTpXoEpPpXoIpE
qPqTqXpPpTpXoOpPpTpXoUpOqPqXpPpRqXpTpXoYpPpTpXnEoPoXnIoEpPpTpXoPoToXnOoPoToXnUoOpPpXoPoRpXoToXnYoPoR
pXoToXmCAoPoToXnEoPoXnHApPpTpXoEpPpTpXoOpPpTpXoUpOqPqTqXpPpRqXpXoYpPpRqXpTpXnIoEpPpTpXoPoToXnOoPoToX
nUoOpPpXoPoRpXoToXnYoPoRpXoToXmDAoPoToXnDApPpTpXoEpPpXoIpEqPqXpPpTpXoOpPpTpXoUpOqPqXpPpRqXpTpXnEoPoX
nIoEpPpXoPoToXnOoPoToXnUoOpXoPoRpXoToXmEnXmFAoPoToXnIoPoToXnOoPoXnUoPoRpXoToXnYoPoToXmGAoPoToXnEoPoT
oXnGApPpTpXoEpPpTpXoIpEqPqXpTpXoOpPpTpXoUpOqPqTqXpPpRqXpTpXnIoEpPpTpXoPoToXnOoPoToXnUoOpPpTpXoPoRpX
oToXmHAoPoToXnEoPoXnIEpXoTnLApPpTpXoEpPpXoIpEqPqXpPpTpXoOpPpXoUpOqPqXpPpRqXpTpXoYpPpRqXpTpXnMApPpTpX
oIpEqPqXpPpTpXoOpPpTpXoUpOqPqXpPpRqXpTpXoYpPpRqXpXnNApPpTpXoEpPpXoIpEqPqTqXpPpTpXoOPpTpXoUOqXpTnOoP
oToXnUOpPpTpXnXApPpTpXoEpPpXoIpEqPqTqXpPpTpXoOpPpTpXoUOqPqTqXmInEoPoToXnPnToERATION MARKnXmJIoEpPpT
pXoPoToXnJIpEqPqTqXpPpTpXoOpPpTpXoUpOqPqXpPpRqXpTpXoYpPpTpXnOoPoToXnUoOpPpTpXoPoRpXoToXnYoPoRpXoToX
mKAoPoToXnEoPoToXnIoEpPpXoPoToXnOoPoToXnUoOpPpXoPoRpXoToXmLAoPoToXnEoPoXnIoEpPpTpXoPoToXnOoPoToXnUoO
pPpTpXoPoRpXoToXnYoPoRpXoToXmMAoPoToXnEoXnGApPpTpXoEpPpXoIEqXoOpPpTpXoUpOqPqXpPpRqXpTpXnIoEpPpXoPoT
oXnOoPoToXnUoOpPpTpXoPoRpXoToXnYoPoToXmNAoPoXnBApPpTpXoIpEqPqXpPpTpXoOpPpTpXoUpPpRqXpTpXoYpPpRqXpTpX
nDApPpTpXoEpPpXoIpEqXpPpTpXoOpPpTpXoUpPpRqXpTpXnEoPoXnGApPpTpXoEpPpXoIEqPqXoOpPpTpXoUOqTqXnIoEpPpXoP
oToXnJIpEqPqTqXpPpTpXoOpPpTpXoUpOqXpPpRqXpXoYpPpRqXpTpXnOoPoToXnRApPpTpXoEpPpTpXoOpPpXoUpPpRqXpTpXoY
pPpRqXpTpXnUoOpPpXoPoRpXoToXnYIpEqPqTqXpPpTpXoOpPpTpXoUpOqPqXpPpTpXnZApPpTpXoEpXoIpEqPqXpPpTpXoOPpX
oUpOqXpPpRqXpXoYpPpRqXpTpXmOnPnTnXmPAoPoToXnIoEpPpXoPoToXnOoPoToXnUoOpPpXoPoRpXoToXnYoPoRpXoToXmQIoE
pPpTpXoPoToXnOoPoToXnUoOpPpTpXoPoRpXoToXnYoPoRpXoToXmRAoPoToXnEoPoXnOoPoToXnRApXoEpPpTpXoOpPpTpXoUpO
qXpPpRqXpTpXoYpPpRqXpTpXnUoOpPpXoPoRpXoToXnYoPoRpXoToXmSAoPoToXnEoPoXnHApPpTpXoEpPpTpXoOpPpTpXoUpOqP
qXpPpRqXpTpXoYpPpRqXpTpXnIoEpPpXoPoToXnOoPoToXnSApPpTpXoEpPpXoIpEqPqXpPpTpXoOpPpTpXoUpPpTpXoYpPpRqX
pTpXnUoOpPpXoPoRpXoToXnYoPoRpXoToXmTAoPoToXnEoPoXnIoEpPpXoPoToXnOoPoToXnUoOpPpTpXoPoRpXoToXmUOoPoX
mVAoPoToXnEPoXnIoEpPpTpXoPoToXnOoPoToXnUoPoRpXoToXnYoPoRpXoToXmWAoPoToXnEoPoXnOoPoXnUoOpPpXmXIoEpPpT
pXoPoToXnOoPoToXnUOpXnYoPoRpXoToXmYIoEpPpTpXoPoToXnOoPoToXnUoOpPpTpXoPoRpXoToXnYoPoRpXoToXmZAoPoToX
nEoPoXnHApPpTpXoEpPpTpXoOpPpTpXoUpOqPqXpPpRqXpTpXoYpPpRqXpTpXnIoEpPpXoPoToXnOoPoToXnUoOpPpXoPoRpXoT
oXnYoPoRpXoToXnZApPpTpXoEpPpXoIpEqPqTqXpPpTpXoOpPpXoUpPpRqXpXoYpPpRqXpTpXcN YANGbO-YO
aZ NOTATION BAG MEMBERSHIPlDOMAIN ANTIRESTRICTIONlLEFT BINDING BRACKETqIMAGE BRACKET
lRANGE ANTIRESTRICTIONmELATIONAL COMPOSITIONmIGHT BINDING BRACKETrIMAGE BRACKETlSCHEMA COMPOSITION
sPIPINGtROJECTIONmPOTlTYPE COLONbANABAZAR SQUARE CLOSING DOUBLE-LINED HEAD MARKzHEAD MARK
tUSTER-FINAL LETTER LAznRAznVAznYAzINITIAL LETTER RArFINAL CONSONANT MARK
rINITIAL DOUBLE-LINED HEAD MARKzHEAD MARKrLETTER -AyAyBAzHAyCAzHAyDAzDAzbHAzHAzZAzbHAyGAzHAyHAyJAyKA
zHAzSSAyLAyMAyNAzGAzNAzYAyPAzHAyRAySAzHAzSAyTAzHAzSAzbHAzTAzbHAyVAyYAyZAzHArMARK DOUBLE SHAD
wLONG TSHEGwSHADwTSHEGrSIGN ANUSVARAwCANDRA WITH ORNAMENTzdBINDUzi WITH ORNAMENTwVIRAMAySARGA
sUBJOINERrVOWEL LENGTH MARKxSIGN AIzeUzdEzdIzdOzeEzdREVERSED IzdUzeEbEBRA FACEcRO WIDTH JOINER
lNO-BREAK SPACEnN-JOINERlSPACEcUSbIPPER-MOUTH FACEbNAMENNY COMBINING ATTACHING VERTICAL OMET
tLOWER TONAL RANGE INDICATORtMARK BORZAYAyCHASHKAzg POLNAYAzURVED OMETyDEMESTVENNY ZADERZHKA
zVOETOCHIEyGORAZDO NIZKO ON LEFTzqRIGHTznS KRYZHEM ON LEFTzzbRIGHTzhVYSOKOyKACHKAzRYZHze ON LEFT
zUPNAYAyLOMKAyMALO POVYSHE ON LEFTzpRIGHTzmS KHOKHLOM ON LEFTzzbRIGHTzpRYZHEMznTRANNOyNIZKO ON LEFT
ziRIGHTzfS KRYZHEM ON LEFTzsRIGHTyOBLACHKOzNzTSECHKAyPODCHASHIEzj WITH VERTICAL STROKEzcVERTKA
zbVYSHE ON LEFTzkRIGHTzhS KHOKHLOM ON LEFTzvRIGHTzkRYZHEMziTRANNOyRAVNOzbZSEKAySKOBAzOROCHYA NOZHKA
zREDNE ON LEFTzjRIGHTzTRANNO MALO POVYSHEyTIKHAYAzOCHKAzSATA ON LEFTziRIGHTzfS KRYZHEMyUDARKA
yVYSOKO ON LEFTzjRIGHTzgS KHOKHLOM ON LEFTzuRIGHTzjRYZHEMyZADERZHKAzELOzbVOK
tTONAL RANGE MARK MRACHNOzlSVETLOzlTRESVETLOjNEUME CHASHKArELYUSTKApDEMESTVENNY KLYUCHrRBITSA
qOUBLE ZAPYATAYAqUDAqVA V CHELNUpFITApGOLUBCHIK BORZYzMRACHNYzSVETLYzTIKHYzbRESVETLYpKHAMILOqLYUCH
qOBYLAqRYUKu TIKHYsZHqUFISMApMECHIKv KLYUCHENEPOSTOYANNYzePOVODNYzeVOYwPOVODNYpNEMKApOBLAKOqSOKA
u KLYUCHEVAYA NEPOSTOYANNAYAziSVETLAYAwRYUKOVAYA SVETLAYAvSVETLAYAvTRESVETLAYApPALKArRAKLITrUK
qEREVODKAy NEPOSTOYANNAYAqODCHASHIErLKULIZMYpREVERSED CHELYUSTKAqOG
pSKAMEYTSA DVOECHELNAYA KLYUCHEVAYAznNEPOSTOYANNAYAznPROSTAYAznSVETLAYAzKLYUCHENEPOSTOYANNAYA
zhVAYA SVETLAYAzmTIKHAYAzMRACHNAYAzSVETLAYAzTIKHAYAzbRESVETLAYAqLOZHITIEy S KRYZHEMzcZAPYATOY
zZAKRYTOEqTATYAv NEPOSTOYANNAYAwS DVUMYA ZAPYATYMIyKRYZHEMzg I ZAPYATOYyROGOMyZAPYATOYzh I KRYZHEM
zkPODCHASHIEMwZAKRYTAYAzg S ZAPYATOYrOPITSAx S OCHKOMyWITH SOROCHYA NOZHKArRELA DVOECHELNAYA
zj KLYUCHEVAYAzgOKRYZHEVAYAzhPOVODNAYAzq KLYUCHEVAYAwGROMNAYAzf WITH SINGLE ZAPYATAYAzbOKRYZHEVAYA
zm POVODNAYAzcPOVODNAYAzl WITH DOUBLE ZAPYATAYAzrSINGLE ZAPYATAYAwKLYUCHENEPOSTOYANNAYAzePOVODNAYA
xRYUKOVAYAzh GROMNAYAzq WITH SINGLE ZAPYATAYAzmOKRYZHEVAYAzx POVODNAYAznPOVODNAYA
zw WITH DOUBLE ZAPYATAYAzzdSINGLE ZAPYATAYAziPOVODNAYAziTRYASKAzZHEVAYAwMRACHNOTIKHAYA
wNEPOSTOYANNAYAwPOLUPOVODNAYAyVODNAYAxROSTAYAwTIKHAYA PUTNAYAxRYASOGLASNAYAzdPOVODNAYAzdSTRELNAYA
pVRAKHIYA KLYUCHEVAYA MRACHNAYAzlPROSTAYAzlSVETLAYAzlTRESVETLAYAyMRACHNAYAyPROSTAYAySVETLAYA
yTRESVETLAYApZANOZHEKrPYATAYAqMEYTSAjPRIZNAK MODIFIER DIRECTION FLIPzbKRYZHzbLEVEL-2zh3zbROGbOMBIE
bWJcNBSPdJcSP
"

end ReportPress.Text.CharacterName
